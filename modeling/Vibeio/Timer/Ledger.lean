/-
# Timer.Ledger -- what became of every timer ever inserted

A ledger runs beside the wheel and only watches it: it keeps the handles given
out by `insert`, those that a `remove` through their own handle took out, and
those that were live before an `advance` and are not after it.

* `reachable_balanced`: at all times the handles given out are the live ones
  together with the removed and the fired ones, as multisets, and no handle is
  ever given out twice.
* `ledger_accounts_for_every_timer`: slots, entries and slab agree, every timer is in
  exactly one of the three states, and a stale handle removes nothing.
-/
import Vibeio.Timer.Advance
import Mathlib.Tactic.Abel

namespace Vibeio.Timer

set_option autoImplicit false

open Vibeio.Theory

/-- The handles of the live timers. -/
def TimingWheel.handles (w : TimingWheel) : Multiset TimerHandle := w.timers.map (·.handle)

structure Ledger where
  wheel : TimingWheel
  inserted : Multiset TimerHandle
  removed : Multiset TimerHandle
  fired : Multiset TimerHandle

def Ledger.new : Ledger := ⟨.new, 0, 0, 0⟩

/-- One call on the wheel, written down. -/
def Ledger.record (ledger : Ledger) : WheelOp → Option Ledger
  | .insert waker expirationTick slabIndex =>
      if (ledger.wheel.entries.get slabIndex).isNone then
        (ledger.wheel.insert waker expirationTick slabIndex).map fun result =>
          { ledger with wheel := result.1, inserted := result.2 ::ₘ ledger.inserted }
      else none
  | .remove handle =>
      some { ledger with
        wheel := ledger.wheel.remove handle
        removed := if handle ∈ ledger.wheel.handles then handle ::ₘ ledger.removed
          else ledger.removed }
  | .advance ticks =>
      (ledger.wheel.advance ticks).map fun after =>
        { ledger with
          wheel := after.1
          fired := ledger.fired + (ledger.wheel.handles - after.1.handles) }

def ledgerMachine : Machine Ledger WheelOp where
  start ledger := ledger = .new
  step := Ledger.record

/-- The ledger only watches: its wheel moves as the wheel alone does. -/
theorem Ledger.record_wheel (ledger : Ledger) (op : WheelOp) :
    (ledger.record op).map (·.wheel) = op.apply ledger.wheel := by
  cases op with
  | insert waker expirationTick slabIndex =>
      simp only [record, WheelOp.apply]
      split
      · cases ledger.wheel.insert waker expirationTick slabIndex <;> rfl
      · rfl
  | remove handle => rfl
  | advance ticks =>
      simp only [record, WheelOp.apply]
      cases ledger.wheel.advance ticks <;> rfl

/-! ## Live handles under each call -/

namespace TimingWheel

theorem mem_handles {w : TimingWheel} {handle : TimerHandle} :
    handle ∈ w.handles ↔ w.Live handle := by
  simp only [handles, Multiset.mem_map, mem_timers, Live]
  constructor
  · rintro ⟨_, ⟨index, entry, found, rfl⟩, rfl⟩
    exact ⟨entry, found, rfl⟩
  · rintro ⟨entry, found, generation⟩
    exact ⟨_, ⟨_, entry, found, rfl⟩, by simp [TimerEntry.timer, generation]⟩

theorem insert_handles {w w' : TimingWheel} {waker : Waker} {expirationTick slabIndex : Nat}
    {handle : TimerHandle} (vacant : w.entries.get slabIndex = none)
    (inserted : w.insert waker expirationTick slabIndex = some (w', handle)) :
    w'.handles = handle ::ₘ w.handles ∧ handle.generation = w.generationCounter + 1 ∧
      w'.generationCounter = w.generationCounter + 1 := by
  obtain ⟨entry, -, -, generation, -, rfl, entries, -, -, counter⟩ := insert_spec inserted
  refine ⟨?_, generation, counter⟩
  simp only [handles, timers, entries, Slab.items_insert vacant, Multiset.map_cons]
  rfl

theorem remove_handles {w : TimingWheel} {handle : TimerHandle} (live : w.Live handle) :
    w.handles = handle ::ₘ (w.remove handle).handles := by
  obtain ⟨entry, found, generation⟩ := live
  obtain ⟨entries, -⟩ := remove_spec found generation
  simp only [handles, timers, entries, Slab.items_remove found, Multiset.map_cons]
  simp [TimerEntry.timer, generation]

theorem remove_generationCounter (w : TimingWheel) (handle : TimerHandle) :
    (w.remove handle).generationCounter = w.generationCounter := by
  by_cases live : w.Live handle
  · obtain ⟨entry, found, generation⟩ := live
    exact (remove_spec found generation).2.2.2
  · rw [remove_of_not_live live]

/-- An advance hands out the wakers of exactly the timers that leave. -/
theorem advance_fires {w : TimingWheel} {ticks : Nat} {after : Sweep} (placed : w.Placed)
    (advanced : w.advance ticks = some after) :
    after.1.generationCounter = w.generationCounter ∧
      ∃ fired : Multiset LiveTimer, w.timers = after.1.timers + fired ∧
        (after.2 : Multiset Waker) = fired.map (·.waker) := by
  obtain ⟨-, rfl⟩ | ⟨-, drained⟩ := advance_cases placed advanced
  · exact ⟨rfl, 0, by simp⟩
  · obtain ⟨fired, content, wakers, -⟩ := drained.fires
    exact ⟨drained.counter, fired, content, by rw [wakers]; simp⟩

/-! ## Which entry carries which waker -/

/-- The handle names a live entry that carries this waker. -/
def Holds (w : TimingWheel) (handle : TimerHandle) (waker : Waker) : Prop :=
  ∃ entry, w.entries.get handle.slabIndex = some entry ∧ entry.generation = handle.generation ∧
    entry.waker = waker

theorem live_iff_holds {w : TimingWheel} {handle : TimerHandle} :
    w.Live handle ↔ ∃ waker, w.Holds handle waker := by
  constructor
  · rintro ⟨entry, found, generation⟩
    exact ⟨entry.waker, entry, found, generation, rfl⟩
  · rintro ⟨waker, entry, found, generation, -⟩
    exact ⟨entry, found, generation⟩

theorem Holds.live {w : TimingWheel} {handle : TimerHandle} {waker : Waker}
    (holds : w.Holds handle waker) : w.Live handle := live_iff_holds.mpr ⟨waker, holds⟩

theorem Holds.unique {w : TimingWheel} {handle : TimerHandle} {waker waker' : Waker}
    (first : w.Holds handle waker) (second : w.Holds handle waker') : waker = waker' := by
  obtain ⟨entry, found, -, rfl⟩ := first
  obtain ⟨entry', found', -, rfl⟩ := second
  cases found.symm.trans found'
  rfl

theorem insert_holds {w w' : TimingWheel} {waker : Waker} {expirationTick slabIndex : Nat}
    {handle : TimerHandle} (vacant : w.entries.get slabIndex = none)
    (inserted : w.insert waker expirationTick slabIndex = some (w', handle))
    (other : TimerHandle) (carried : Waker) :
    w'.Holds other carried ↔ (other = handle ∧ carried = waker) ∨ w.Holds other carried := by
  obtain ⟨entry, wakes, -, generation, -, rfl, entries, -, -, -⟩ := insert_spec inserted
  simp only [Holds, entries, Slab.get_insert]
  by_cases same : other.slabIndex = slabIndex
  · -- the new entry is the only one at its index
    subst same
    simp only [if_true, Option.some.injEq, exists_eq_left', vacant, reduceCtorEq, false_and,
      exists_false, or_false, wakes]
    constructor
    · rintro ⟨match_, rfl⟩
      exact ⟨by rw [match_], rfl⟩
    · rintro ⟨named, rfl⟩
      exact ⟨(congrArg TimerHandle.generation named).symm, rfl⟩
  · have different : other ≠ ⟨slabIndex, entry.generation⟩ := fun named =>
      same (congrArg TimerHandle.slabIndex named)
    simp [same, different]

theorem remove_holds {w : TimingWheel} (handle other : TimerHandle) (carried : Waker) :
    (w.remove handle).Holds other carried ↔ other ≠ handle ∧ w.Holds other carried := by
  by_cases live : w.Live handle
  · obtain ⟨entry, found, generation⟩ := live
    simp only [Holds, (remove_spec found generation).1, Slab.get_remove]
    by_cases same : other.slabIndex = handle.slabIndex
    · simp only [same, if_true, reduceCtorEq, false_and, exists_false, false_iff, not_and, found,
        Option.some.injEq, exists_eq_left']
      intro different generation' _
      apply different
      cases other
      cases handle
      simp_all
    · have different : other ≠ handle := fun named => same (congrArg TimerHandle.slabIndex named)
      simp [same, different]
  · rw [remove_of_not_live live]
    constructor
    · intro holds
      exact ⟨fun named => live (named ▸ holds.live), holds⟩
    · exact fun both => both.2

/-- An advance takes entries out and wakes what they carried; it adds none. -/
theorem advance_holds {w : TimingWheel} {ticks : Nat} {after : Sweep} (placed : w.Placed)
    (advanced : w.advance ticks = some after) (handle : TimerHandle) (waker : Waker) :
    (after.1.Holds handle waker → w.Holds handle waker) ∧
      (w.Holds handle waker → after.1.Holds handle waker ∨ waker ∈ after.2) := by
  obtain ⟨-, fired, content, wakers⟩ := advance_fires placed advanced
  have asTimer : ∀ v : TimingWheel, v.Holds handle waker ↔
      ∃ timer ∈ v.timers, timer.handle = handle ∧ timer.waker = waker := by
    intro v
    constructor
    · rintro ⟨entry, found, generation, rfl⟩
      refine ⟨entry.timer handle.slabIndex, mem_timers.mpr ⟨_, entry, found, rfl⟩, ?_, rfl⟩
      simp [TimerEntry.timer, generation]
    · rintro ⟨timer, member, rfl, rfl⟩
      obtain ⟨index, entry, found, rfl⟩ := mem_timers.mp member
      exact ⟨entry, found, rfl, rfl⟩
  rw [asTimer, asTimer, content]
  constructor
  · rintro ⟨timer, member, named⟩
    exact ⟨timer, Multiset.mem_add.mpr (Or.inl member), named⟩
  · rintro ⟨timer, member, named, rfl⟩
    rcases Multiset.mem_add.mp member with stays | leaves
    · exact Or.inl ⟨timer, stays, named, rfl⟩
    · right
      rw [← Multiset.mem_coe, wakers]
      exact Multiset.mem_map_of_mem _ leaves

end TimingWheel

/-! ## The balance -/

structure Ledger.Balanced (ledger : Ledger) : Prop where
  placed : ledger.wheel.Placed
  fresh : ∀ handle ∈ ledger.inserted, handle.generation ≤ ledger.wheel.generationCounter
  nodup : ledger.inserted.Nodup
  balance : ledger.inserted = ledger.wheel.handles + ledger.removed + ledger.fired

theorem Ledger.new_balanced : Ledger.new.Balanced :=
  ⟨TimingWheel.new_placed, by simp [Ledger.new], by simp [Ledger.new], rfl⟩

theorem Ledger.record_balanced {ledger ledger' : Ledger} {op : WheelOp} (balanced : ledger.Balanced)
    (recorded : ledger.record op = some ledger') : ledger'.Balanced := by
  cases op with
  | insert waker expirationTick slabIndex =>
      simp only [record, Option.ite_none_right_eq_some, Option.map_eq_some_iff,
        Option.isNone_iff_eq_none] at recorded
      obtain ⟨vacant, ⟨w', handle⟩, inserted, rfl⟩ := recorded
      obtain ⟨handles, generation, counter⟩ := TimingWheel.insert_handles vacant inserted
      refine ⟨TimingWheel.insert_placed balanced.placed vacant inserted, fun other member => ?_, ?_, ?_⟩
      · rcases Multiset.mem_cons.mp member with rfl | old
        · exact le_of_eq (generation.trans counter.symm)
        · exact (balanced.fresh other old).trans (counter ▸ Nat.le_succ _)
      · refine Multiset.nodup_cons.mpr ⟨fun again => ?_, balanced.nodup⟩
        have := balanced.fresh handle again
        omega
      · change handle ::ₘ ledger.inserted = w'.handles + ledger.removed + ledger.fired
        rw [handles, balanced.balance, Multiset.cons_add, Multiset.cons_add]
  | remove handle =>
      cases recorded
      refine ⟨TimingWheel.remove_placed balanced.placed handle, ?_, balanced.nodup, ?_⟩
      · simpa only [TimingWheel.remove_generationCounter] using balanced.fresh
      · by_cases live : ledger.wheel.Live handle
        · simp only [TimingWheel.mem_handles.mpr live, if_true]
          rw [balanced.balance, TimingWheel.remove_handles live, Multiset.cons_add, Multiset.add_cons]
        · simp only [mt TimingWheel.mem_handles.mp live, if_false]
          rw [TimingWheel.remove_of_not_live live]
          exact balanced.balance
  | advance ticks =>
      simp only [record, Option.map_eq_some_iff] at recorded
      obtain ⟨after, advanced, rfl⟩ := recorded
      obtain ⟨counter, fired, content, -⟩ := TimingWheel.advance_fires balanced.placed advanced
      have split : ledger.wheel.handles = after.1.handles + fired.map (·.handle) := by
        simp only [TimingWheel.handles, content, Multiset.map_add]
      refine ⟨TimingWheel.advance_placed balanced.placed advanced, ?_, balanced.nodup, ?_⟩
      · simpa only [counter] using balanced.fresh
      · change ledger.inserted = after.1.handles + ledger.removed +
          (ledger.fired + (ledger.wheel.handles - after.1.handles))
        rw [balanced.balance, split, add_tsub_cancel_left]
        abel

theorem reachable_balanced {ledger : Ledger} (reachable : ledgerMachine.Reachable ledger) :
    ledger.Balanced :=
  Machine.invariant (I := Ledger.Balanced) (fun _ starts => by rw [starts]; exact Ledger.new_balanced)
    (fun _ _ _ balanced recorded => Ledger.record_balanced balanced recorded) reachable

/-! ## The three states of a timer -/

inductive TimerState where
  | live
  | removed
  | fired
  deriving DecidableEq, Repr

/-- `ledger` has seen the timer of `handle` end, or not end, as `state` says. -/
def Ledger.InState (ledger : Ledger) (handle : TimerHandle) : TimerState → Prop
  | .live => ledger.wheel.Live handle
  | .removed => ledger.removed.count handle = 1
  | .fired => ledger.fired.count handle = 1

theorem Ledger.Balanced.unique_state {ledger : Ledger} (balanced : ledger.Balanced)
    {handle : TimerHandle} (given : handle ∈ ledger.inserted) :
    ∃! state, ledger.InState handle state := by
  have once : ledger.wheel.handles.count handle + ledger.removed.count handle +
      ledger.fired.count handle = 1 := by
    rw [← Multiset.count_add, ← Multiset.count_add, ← balanced.balance]
    exact Multiset.count_eq_one_of_mem balanced.nodup given
  have live : ledger.wheel.Live handle ↔ 1 ≤ ledger.wheel.handles.count handle := by
    rw [← TimingWheel.mem_handles, Multiset.one_le_count_iff_mem]
  rcases Nat.lt_or_ge 0 (ledger.wheel.handles.count handle) with some | none
  · refine ⟨.live, live.mpr some, fun state is => ?_⟩
    cases state <;> simp only [Ledger.InState] at is <;> first | rfl | omega
  · have dead : ¬ ledger.wheel.Live handle := by rw [live]; omega
    rcases Nat.lt_or_ge 0 (ledger.removed.count handle) with some | none'
    · refine ⟨.removed, by simp only [Ledger.InState]; omega, fun state is => ?_⟩
      cases state <;> simp only [Ledger.InState] at is <;> first | rfl | omega | exact absurd is dead
    · refine ⟨.fired, by simp only [Ledger.InState]; omega, fun state is => ?_⟩
      cases state <;> simp only [Ledger.InState] at is <;> first | rfl | omega | exact absurd is dead

/-- Slots, entries, slab and history of a wheel agree. -/
structure Ledger.Accounts (ledger : Ledger) : Prop where
  /-- A live index stands once in the slot its entry names, and in no other. -/
  index_once : ∀ index entry, ledger.wheel.entries.get index = some entry → ∀ level slot,
    (ledger.wheel.slotAt level slot).count index =
      if level = entry.level ∧ slot = entry.slot then 1 else 0
  /-- A slot holds indices of live entries only. -/
  slots_live : ∀ level slot, ∀ index ∈ ledger.wheel.slotAt level slot,
    ∃ entry, ledger.wheel.entries.get index = some entry
  /-- Every timer ever inserted is live, or was removed once by its own handle,
  or fired once. -/
  one_state : ∀ handle ∈ ledger.inserted, ∃! state, ledger.InState handle state
  /-- An advance returns the waker of every timer that leaves in it, once. -/
  wakers : ∀ ticks after, ledger.wheel.advance ticks = some after →
    ∃ fired : Multiset LiveTimer, ledger.wheel.timers = after.1.timers + fired ∧
      (after.2 : Multiset Waker) = fired.map (·.waker)
  /-- `remove` through a stale handle changes nothing. -/
  stale : ∀ handle ∈ ledger.inserted, ¬ ledger.wheel.Live handle →
    ledger.wheel.remove handle = ledger.wheel

/-- **The representation invariant of the wheel and its consequences**, in every
state any sequence of calls reaches. -/
theorem ledger_accounts_for_every_timer {ledger : Ledger}
    (reachable : ledgerMachine.Reachable ledger) : ledger.Accounts := by
  have balanced := reachable_balanced reachable
  refine ⟨fun index entry found level slot => ?_, fun level slot index member => ?_,
    fun handle given => balanced.unique_state given,
    fun ticks after advanced => (TimingWheel.advance_fires balanced.placed advanced).2,
    fun handle _ stale => TimingWheel.remove_of_not_live stale⟩
  · rw [balanced.placed.count, TimingWheel.expected, found]
    simp only [eq_comm]
  · obtain ⟨entry, found, -⟩ := balanced.placed.mem_slot.mp member
    exact ⟨entry, found⟩

/-- A removed timer's slab index reused by a newer one; the first handle is stale. -/
theorem ledger_accounts_after_reuse :
    ∃ ledger, ledgerMachine.exec .new
        [.insert ⟨1⟩ 100 0, .remove ⟨0, 1⟩, .insert ⟨2⟩ 200 0] = some ledger ∧
      ledger.inserted = {⟨0, 2⟩, ⟨0, 1⟩} ∧ ledger.Accounts :=
  ⟨_, rfl, rfl, ledger_accounts_for_every_timer
    ⟨_, [.insert ⟨1⟩ 100 0, .remove ⟨0, 1⟩, .insert ⟨2⟩ 200 0], rfl, rfl⟩⟩

end Vibeio.Timer
