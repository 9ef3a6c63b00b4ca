/-
# Timer.Nearest -- the nearest wakeup

The heap behind `nearest_wakeup` is never searched: entries of timers that were removed or
have fired stay in it until they come to the top, where they are told from live ones by the
index and the generation they carry.  An index may belong to a newer timer by then.

* `Tracked`: every live timer has its element in the heap, and an element whose index and
  generation name a live timer has the expiration of that timer.
* `nearest_wakeup_exact`: the nearest wakeup is the least expiration of the live timers, and
  the deadline of a spin is what remains until then.
-/
import Vibeio.Timer.Clock
import Mathlib.Order.Bounds.Basic

namespace Vibeio.Timer

set_option autoImplicit false
set_option linter.dupNamespace false

open Vibeio.Theory

namespace TimingWheel

/-- The expirations of the live timers. -/
def liveTicks (w : TimingWheel) : Set Nat :=
  { tick | ∃ index entry, w.entries.get index = some entry ∧ entry.expirationTick = tick }

/-- The element `insert` pushes for an entry. -/
def heapEntryOf (index : Nat) (entry : TimerEntry) : HeapEntry :=
  ⟨entry.expirationTick, index, entry.generation⟩

/-- The heap element names a live timer. -/
def NamesLive (entries : Slab TimerEntry) (h : HeapEntry) (entry : TimerEntry) : Prop :=
  entries.get h.slabIndex = some entry ∧ entry.generation = h.generation

structure Tracked (w : TimingWheel) : Prop where
  sorted : w.expirationHeap.Pairwise fun a b => a.expirationTick ≤ b.expirationTick
  covers : ∀ index entry, w.entries.get index = some entry →
    heapEntryOf index entry ∈ w.expirationHeap
  agrees : ∀ h ∈ w.expirationHeap, ∀ entry, NamesLive w.entries h entry →
    entry.expirationTick = h.expirationTick
  fresh : ∀ h ∈ w.expirationHeap, h.generation ≤ w.generationCounter
  positive : ∀ index entry, w.entries.get index = some entry → 1 ≤ entry.expirationTick

/-! ## The heap -/

theorem mem_heapPush {h entry : HeapEntry} {heap : List HeapEntry} :
    h ∈ heapPush entry heap ↔ h = entry ∨ h ∈ heap := by
  simp only [heapPush, List.mem_orderedInsert]

theorem heapPush_sorted {heap : List HeapEntry} (entry : HeapEntry)
    (sorted : heap.Pairwise fun a b => a.expirationTick ≤ b.expirationTick) :
    (heapPush entry heap).Pairwise fun a b => a.expirationTick ≤ b.expirationTick := by
  induction heap with
  | nil => simp [heapPush]
  | cons top rest ih =>
      obtain ⟨least, sortedRest⟩ := List.pairwise_cons.mp sorted
      by_cases first : entry.before top = true
      · have below : entry.expirationTick ≤ top.expirationTick := by
          simp only [HeapEntry.before, Bool.or_eq_true, Bool.and_eq_true, decide_eq_true_eq,
            beq_iff_eq] at first
          omega
        rw [heapPush, List.orderedInsert_cons, if_pos first]
        refine List.pairwise_cons.mpr ⟨fun h member => ?_, sorted⟩
        rcases List.mem_cons.mp member with rfl | later
        · exact below
        · exact below.trans (least h later)
      · have above : top.expirationTick ≤ entry.expirationTick := by
          simp only [HeapEntry.before, Bool.or_eq_true, Bool.and_eq_true, decide_eq_true_eq,
            beq_iff_eq, not_or] at first
          omega
        rw [heapPush, List.orderedInsert_cons, if_neg first]
        refine List.pairwise_cons.mpr ⟨fun h member => ?_, ih sortedRest⟩
        rcases mem_heapPush.mp member with rfl | later
        · exact above
        · exact least h later

/-- What the loop of `refresh_min_expiration` leaves: a rest of the heap with every element
that names a live timer, and one of those on top. -/
theorem refreshHeap_spec (entries : Slab TimerEntry) (heap : List HeapEntry) :
    (refreshHeap entries heap).1 <:+ heap ∧
    (∀ h ∈ heap, ∀ entry, NamesLive entries h entry → h ∈ (refreshHeap entries heap).1) ∧
    ((refreshHeap entries heap = ([], none)) ∨
      ∃ top rest entry, refreshHeap entries heap = (top :: rest, some entry.expirationTick) ∧
        NamesLive entries top entry) := by
  induction heap with
  | nil => exact ⟨List.suffix_refl _, fun h member => absurd member List.not_mem_nil, .inl rfl⟩
  | cons top rest ih =>
      obtain ⟨suffix, keeps, outcome⟩ := ih
      -- a top element that names no live timer is popped
      have popped (stale : ∀ entry, ¬ NamesLive entries top entry) :
          ∀ h ∈ top :: rest, ∀ entry, NamesLive entries h entry → h ∈ (refreshHeap entries rest).1 := by
        intro h member entry names
        rcases List.mem_cons.mp member with rfl | later
        · exact absurd names (stale entry)
        · exact keeps h later entry names
      unfold refreshHeap
      cases found : entries.get top.slabIndex with
      | none =>
          have stale : ∀ entry, ¬ NamesLive entries top entry := by
            rintro entry ⟨there, -⟩
            cases found.symm.trans there
          exact ⟨suffix.trans (List.suffix_cons top rest), popped stale, outcome⟩
      | some entry =>
          by_cases same : entry.generation = top.generation
          · simp only [same, if_true]
            exact ⟨List.suffix_refl _, fun h member _ _ => member,
              .inr ⟨top, rest, entry, rfl, found, same⟩⟩
          · have stale : ∀ other, ¬ NamesLive entries top other := by
              rintro other ⟨there, generation⟩
              cases found.symm.trans there
              exact same generation
            simp only [same, if_false]
            exact ⟨suffix.trans (List.suffix_cons top rest), popped stale, outcome⟩

theorem namesLive_heapEntryOf {entries : Slab TimerEntry} {index : Nat} {entry : TimerEntry}
    (found : entries.get index = some entry) : NamesLive entries (heapEntryOf index entry) entry :=
  ⟨found, rfl⟩

/-! ## What the operations keep -/

theorem new_tracked : new.Tracked :=
  ⟨List.Pairwise.nil, by simp [new], by simp [new], by simp [new], by simp [new]⟩

/-- Timers may leave the wheel or move in it. -/
theorem Tracked.fewer {w w' : TimingWheel} (tracked : w.Tracked)
    (heap : w'.expirationHeap = w.expirationHeap) (counter : w'.generationCounter = w.generationCounter)
    (entries : ∀ index entry, w'.entries.get index = some entry → ∃ before,
      w.entries.get index = some before ∧ before.generation = entry.generation ∧
        before.expirationTick = entry.expirationTick) : w'.Tracked := by
  refine ⟨heap ▸ tracked.sorted, ?_, ?_, heap ▸ counter ▸ tracked.fresh, ?_⟩
  · intro index entry found
    obtain ⟨before, earlier, generation, expiration⟩ := entries index entry found
    have member := tracked.covers index before earlier
    rw [heap]
    rwa [heapEntryOf, generation, expiration] at member
  · rintro h member entry ⟨found, generation⟩
    obtain ⟨before, earlier, same, expiration⟩ := entries _ entry found
    rw [← expiration]
    exact tracked.agrees h (heap ▸ member) before ⟨earlier, same.trans generation⟩
  · intro index entry found
    obtain ⟨before, earlier, -, expiration⟩ := entries index entry found
    exact expiration ▸ tracked.positive index before earlier

theorem Tracked.refresh {w : TimingWheel} (tracked : w.Tracked) : w.refreshMinExpiration.Tracked := by
  obtain ⟨suffix, keeps, -⟩ := refreshHeap_spec w.entries w.expirationHeap
  have subset : ∀ h ∈ (refreshHeap w.entries w.expirationHeap).1, h ∈ w.expirationHeap :=
    fun h member => suffix.subset member
  exact ⟨tracked.sorted.sublist suffix.sublist,
    fun index entry found => keeps _ (tracked.covers index entry found) entry (namesLive_heapEntryOf found),
    fun h member => tracked.agrees h (subset h member),
    fun h member => tracked.fresh h (subset h member), tracked.positive⟩

theorem insert_heap {w w' : TimingWheel} {waker : Waker} {expirationTick slabIndex : Nat}
    {handle : TimerHandle} (inserted : w.insert waker expirationTick slabIndex = some (w', handle)) :
    w'.expirationHeap =
      heapPush ⟨expirationTick, slabIndex, w.generationCounter + 1⟩ w.expirationHeap := by
  simp only [insert, Option.map_eq_some_iff, Prod.mk.injEq, addU64_eq_some] at inserted
  obtain ⟨generation, ⟨rfl, -⟩, rfl, rfl⟩ := inserted
  rfl

/-- The generation of a new timer is above all in the heap, so no old element names it. -/
theorem Tracked.insert {w w' : TimingWheel} {waker : Waker} {expirationTick slabIndex : Nat}
    {handle : TimerHandle} (tracked : w.Tracked) (positive : 1 ≤ expirationTick)
    (inserted : w.insert waker expirationTick slabIndex = some (w', handle)) : w'.Tracked := by
  obtain ⟨new, -, expiration, generation, -, -, entries, -, -, counter⟩ := insert_spec inserted
  have heap := insert_heap inserted
  refine ⟨by rw [heap]; exact heapPush_sorted _ tracked.sorted, ?_, ?_, ?_, ?_⟩
  · intro index entry found
    rw [entries, Slab.get_insert] at found
    rw [heap, mem_heapPush]
    split at found
    · rename_i here
      cases found
      exact .inl (by rw [heapEntryOf, expiration, generation, here])
    · exact .inr (tracked.covers index entry found)
  · rintro h member entry ⟨found, same⟩
    rw [entries, Slab.get_insert] at found
    rw [heap, mem_heapPush] at member
    rcases member with rfl | old
    · simp only [if_true, Option.some.injEq] at found
      rw [← found, expiration]
    · split at found
      · cases found
        have := tracked.fresh h old
        omega
      · exact tracked.agrees h old entry ⟨found, same⟩
  · intro h member
    rw [heap, mem_heapPush] at member
    rw [counter]
    rcases member with rfl | old
    · exact Nat.le_refl _
    · exact (tracked.fresh h old).trans (Nat.le_succ _)
  · intro index entry found
    rw [entries, Slab.get_insert] at found
    split at found
    · cases found
      rw [expiration]
      exact positive
    · exact tracked.positive index entry found

theorem Tracked.remove {w : TimingWheel} (tracked : w.Tracked) (handle : TimerHandle) :
    (w.remove handle).Tracked := by
  unfold TimingWheel.remove
  split
  · exact tracked
  · split
    · refine Tracked.refresh (tracked.fewer rfl rfl ?_)
      intro index entry found
      simp only [setSlot_entries, Slab.get_remove] at found
      split at found
      · cases found
      · exact ⟨entry, found, rfl, rfl⟩
    · exact tracked

/-! ## The heap through an advance -/

theorem settle_heap (sweep : Sweep) (index : Nat) :
    (settle sweep index).1.expirationHeap = sweep.1.expirationHeap := by
  unfold settle
  simp only
  split
  · rfl
  · split <;> rfl

theorem foldl_heap {ι : Type} {f : Sweep → ι → Sweep}
    (one : ∀ sweep i, (f sweep i).1.expirationHeap = sweep.1.expirationHeap) (items : List ι)
    (sweep : Sweep) : (items.foldl f sweep).1.expirationHeap = sweep.1.expirationHeap := by
  induction items generalizing sweep with
  | nil => rfl
  | cons i rest ih => exact (ih (f sweep i)).trans (one sweep i)

theorem drainSlot_heap (level : Level) (sweep : Sweep) (slot : Slot) :
    (drainSlot level sweep slot).1.expirationHeap = sweep.1.expirationHeap :=
  foldl_heap settle_heap _ _

theorem cascadeLevel_heap (sweep : Sweep) (level : Level) :
    (cascadeLevel sweep level).1.expirationHeap = sweep.1.expirationHeap := by
  rw [cascadeLevel, foldl_heap (drainSlot_heap level)]

theorem cascadeAllLevels_heap (sweep : Sweep) :
    (cascadeAllLevels sweep).1.expirationHeap = sweep.1.expirationHeap := by
  rw [cascadeAllLevels, foldl_heap cascadeLevel_heap]

/-- Until its last step an advance does not touch the heap. -/
theorem advance_heap {w : TimingWheel} {ticks : Nat} {after : Sweep}
    (advanced : w.advance ticks = some after) :
    after = (w, []) ∨ ∃ swept : TimingWheel, swept.expirationHeap = w.expirationHeap ∧
      after.1 = swept.refreshMinExpiration := by
  unfold advance at advanced
  split at advanced
  · cases advanced
    exact .inl rfl
  · simp only [Option.map_eq_some_iff] at advanced
    obtain ⟨tick, -, rfl⟩ := advanced
    refine .inr ⟨_, ?_, rfl⟩
    rw [foldl_heap (f := processSlotAtLevel0) (drainSlot_heap level0), cascadeAllLevels_heap]

theorem Tracked.advance {w : TimingWheel} {ticks : Nat} {after : Sweep} (tracked : w.Tracked)
    (placed : w.Placed) (advanced : w.advance ticks = some after) : after.1.Tracked := by
  obtain rfl | ⟨swept, heap, refreshed⟩ := advance_heap advanced
  · exact tracked
  · rw [refreshed]
    refine Tracked.refresh (tracked.fewer heap ?_ ?_)
    · have counter := (advance_fires placed advanced).1
      rw [refreshed] at counter
      exact counter
    · intro index entry found
      have later : after.1.entries.get index = some entry := by
        rw [refreshed]
        exact found
      exact advance_live placed advanced later

/-! ## The top of the heap -/

/-- What `nearest_wakeup` is for. -/
structure NearestExact (w : TimingWheel) (nearest : Option Nat) : Prop where
  least : ∀ tick, nearest = some tick ↔ IsLeast w.liveTicks tick
  none_live : nearest = none ↔ ∀ index, w.entries.get index = none

theorem Tracked.nearest {w : TimingWheel} (tracked : w.Tracked) :
    w.NearestExact w.nearestWakeup.2 := by
  obtain ⟨suffix, keeps, outcome⟩ := refreshHeap_spec w.entries w.expirationHeap
  have inHeap : ∀ index entry, w.entries.get index = some entry →
      heapEntryOf index entry ∈ (refreshHeap w.entries w.expirationHeap).1 :=
    fun index entry found =>
      keeps _ (tracked.covers index entry found) entry (namesLive_heapEntryOf found)
  have answer : w.nearestWakeup.2 =
      (refreshHeap w.entries w.expirationHeap).2.filter (· ≠ 0) := rfl
  rcases outcome with empty | ⟨top, rest, entry, top_eq, names⟩
  · -- an empty heap covers no live timer
    have vacant : ∀ index, w.entries.get index = none := by
      intro index
      cases found : w.entries.get index with
      | none => rfl
      | some entry =>
          have member := inHeap index entry found
          rw [empty] at member
          cases member
    rw [answer, empty]
    refine ⟨fun tick => ⟨(fun impossible => by cases impossible), ?_⟩, fun _ => vacant, fun _ => rfl⟩
    rintro ⟨⟨index, entry, found, -⟩, -⟩
    cases (vacant index).symm.trans found
  · have expires := tracked.agrees top (suffix.subset (by rw [top_eq]; exact List.mem_cons_self)) entry names
    have sorted := tracked.sorted.sublist suffix.sublist
    rw [top_eq] at sorted inHeap
    have positive := tracked.positive top.slabIndex entry names.1
    have chosen : w.nearestWakeup.2 = some entry.expirationTick := by
      rw [answer, top_eq]
      exact Option.filter_some_pos (by simpa using by omega)
    have isLeast : IsLeast w.liveTicks entry.expirationTick := by
      refine ⟨⟨top.slabIndex, entry, names.1, rfl⟩, ?_⟩
      rintro tick ⟨index, other, found, rfl⟩
      rcases List.mem_cons.mp (inHeap index other found) with same | later
      · rw [expires, ← same]
        exact Nat.le_refl _
      · rw [expires]
        exact (List.pairwise_cons.mp sorted).1 _ later
    rw [chosen]
    refine ⟨fun tick => ⟨?_, ?_⟩, ?_, ?_⟩
    · rintro same
      cases same
      exact isLeast
    · intro other
      rw [isLeast.unique other]
    · intro impossible
      cases impossible
    · intro vacant
      cases (vacant top.slabIndex).symm.trans names.1

end TimingWheel

/-! ## Whole runs -/

/-- The call inserts no timer for the tick zero. -/
def WheelOp.Positive : WheelOp → Prop
  | .insert _ expirationTick _ => 1 ≤ expirationTick
  | _ => True

structure TimingWheel.Sound (w : TimingWheel) : Prop where
  placed : w.Placed
  tracked : w.Tracked

theorem TimingWheel.Sound.apply {w w' : TimingWheel} {op : WheelOp} (sound : w.Sound)
    (positive : op.Positive) (applied : op.apply w = some w') : w'.Sound := by
  cases op with
  | insert waker expirationTick slabIndex =>
      simp only [WheelOp.apply, Option.ite_none_right_eq_some, Option.map_eq_some_iff,
        Option.isNone_iff_eq_none] at applied
      obtain ⟨vacant, ⟨_, handle⟩, inserted, rfl⟩ := applied
      exact ⟨insert_placed sound.placed vacant inserted, sound.tracked.insert positive inserted⟩
  | remove handle =>
      cases applied
      exact ⟨remove_placed sound.placed handle, sound.tracked.remove handle⟩
  | advance ticks =>
      simp only [WheelOp.apply, Option.map_eq_some_iff] at applied
      obtain ⟨after, advanced, rfl⟩ := applied
      exact ⟨advance_placed sound.placed advanced, sound.tracked.advance sound.placed advanced⟩

theorem TimingWheel.Sound.exec {w w' : TimingWheel} {ops : List WheelOp} (sound : w.Sound)
    (positive : ∀ op ∈ ops, op.Positive) (ran : wheelMachine.exec w ops = some w') : w'.Sound := by
  induction ops generalizing w with
  | nil => cases ran; exact sound
  | cons op rest ih =>
      obtain ⟨next, stepped, onward⟩ := wheelMachine.exec_cons.mp ran
      exact ih (sound.apply (positive op (by simp)) stepped)
        (fun later member => positive later (by simp [member])) onward

/-- A spin advances the wheel and cleans its heap; an empty wheel it leaves alone. -/
theorem Timer.spin_cases {timer after : Timer} {now : Nat} {spin : Timer.Spin}
    (spun : timer.spinAndGetDeadline now = some (after, spin)) :
    (timer.wheel.isEmpty = true ∧ after.wheel = timer.wheel ∧ spin.deadline = none) ∨
    ∃ advanced, timer.wheel.advance (asMillis (now - timer.instant)) = some advanced ∧
      after.wheel = advanced.1.refreshMinExpiration ∧
      spin.deadline = advanced.1.nearestWakeup.2.map fun deadline =>
        max (deadline - advanced.1.now) 1 * tickNanos := by
  unfold Timer.spinAndGetDeadline at spun
  split at spun
  · cases spun
    exact .inl ⟨by assumption, rfl, rfl⟩
  · simp only [Option.map_eq_some_iff, Prod.mk.injEq] at spun
    obtain ⟨advanced, done, rfl, rfl⟩ := spun
    exact .inr ⟨advanced, done, rfl, rfl⟩

theorem Clocked.sound_apply {c c' : Clocked} {op : TimerOp} (sound : c.timer.wheel.Sound)
    (applied : c.apply op = some c') : c'.timer.wheel.Sound := by
  cases op with
  | submit deadline waker slabIndex =>
      simp only [Clocked.apply, Option.ite_none_right_eq_some, Option.isNone_iff_eq_none,
        Option.map_eq_some_iff] at applied
      obtain ⟨vacant, ⟨timer', made, woken⟩, submitted, rfl⟩ := applied
      simp only [Timer.submit] at submitted
      split at submitted
      · cases submitted
        exact sound
      · rename_i enough
        simp only [Option.bind_eq_some_iff, Option.map_eq_some_iff, addU64_eq_some, Prod.mk.injEq]
          at submitted
        obtain ⟨expirationTick, ⟨sum, -⟩, ⟨w', handle⟩, inserted, rfl, rfl, rfl⟩ := submitted
        exact ⟨TimingWheel.insert_placed sound.placed vacant inserted,
          sound.tracked.insert (by omega) inserted⟩
  | cancel handle =>
      cases applied
      exact ⟨TimingWheel.remove_placed sound.placed handle, sound.tracked.remove handle⟩
  | spin now =>
      simp only [Clocked.apply, Option.ite_none_right_eq_some, Option.map_eq_some_iff] at applied
      obtain ⟨-, ⟨after, spin⟩, spun, rfl⟩ := applied
      show after.wheel.Sound
      rcases Timer.spin_cases spun with ⟨-, same, -⟩ | ⟨advanced, done, same, -⟩
      · rw [same]
        exact sound
      · rw [same]
        exact ⟨(TimingWheel.advance_placed sound.placed done).congr rfl rfl,
          (sound.tracked.advance sound.placed done).refresh⟩

theorem Clocked.sound_of_reachable {c : Clocked} (reachable : clockedMachine.Reachable c) :
    c.timer.wheel.Sound := by
  refine Machine.invariant (I := fun c : Clocked => c.timer.wheel.Sound) ?_ ?_ reachable
  · rintro first ⟨reading, rfl⟩
    exact ⟨TimingWheel.new_placed, TimingWheel.new_tracked⟩
  · intro before op after sound applied
    exact sound_apply sound applied

/-- What the deadline of a spin is for. -/
structure Timer.SpinExact (after : Timer) (spin : Timer.Spin) : Prop where
  none_live : spin.deadline = none ↔ ∀ index, after.wheel.entries.get index = none
  remaining : ∀ tick, IsLeast after.wheel.liveTicks tick →
    spin.deadline = some (max 1 (tick - after.wheel.now) * tickNanos)

theorem Timer.spinExact_of_sound {timer after : Timer} {now : Nat} {spin : Timer.Spin}
    (sound : timer.wheel.Sound) (spun : timer.spinAndGetDeadline now = some (after, spin)) :
    after.SpinExact spin := by
  rcases Timer.spin_cases spun with ⟨empty, same, deadline⟩ | ⟨advanced, done, same, deadline⟩
  · have vacant : ∀ index, after.wheel.entries.get index = none := by
      rw [same]
      exact (Slab.isEmpty_iff _).mp empty
    refine ⟨⟨fun _ => vacant, fun _ => deadline⟩, ?_⟩
    rintro tick ⟨⟨index, entry, found, -⟩, -⟩
    cases (vacant index).symm.trans found
  · have nearest := (sound.tracked.advance sound.placed done).nearest
    have entries : after.wheel.entries = advanced.1.entries := by rw [same]; rfl
    have clock : after.wheel.now = advanced.1.now := by rw [same]; rfl
    have ticks : after.wheel.liveTicks = advanced.1.liveTicks := by
      unfold TimingWheel.liveTicks
      rw [entries]
    constructor
    · rw [deadline, Option.map_eq_none_iff, nearest.none_live, entries]
    · intro tick least
      rw [ticks] at least
      rw [deadline, (nearest.least tick).mpr least, clock, Nat.max_comm]
      rfl

/-- **The nearest wakeup is exact.**  After any calls on a wheel that insert no timer for tick
zero, `nearest_wakeup` returns the least expiration of the live timers, and nothing exactly if
none is live.  And in every state of a timer any submissions, cancellations and spins lead to, a
spin returns no deadline exactly if no timer is live after it, and otherwise the ticks left until
the least expiration, at least one, in milliseconds. -/
theorem nearest_wakeup_exact :
    (∀ ops w, wheelMachine.exec .new ops = some w → (∀ op ∈ ops, WheelOp.Positive op) →
      w.NearestExact w.nearestWakeup.2) ∧
    ∀ c, clockedMachine.Reachable c → ∀ now after spin,
      c.timer.spinAndGetDeadline now = some (after, spin) → after.SpinExact spin := by
  constructor
  · intro ops w ran positive
    have fresh : TimingWheel.new.Sound := ⟨TimingWheel.new_placed, TimingWheel.new_tracked⟩
    exact (fresh.exec positive ran).tracked.nearest
  · intro c reachable now after spin spun
    exact Timer.spinExact_of_sound (Clocked.sound_of_reachable reachable) spun

/-- A timer for tick 3 removed and its index used again for tick 9. -/
theorem nearest_wakeup_exact_after_reuse :
    ∃ w, wheelMachine.exec .new [.insert ⟨1⟩ 3 0, .remove ⟨0, 1⟩, .insert ⟨2⟩ 9 0] = some w ∧
      w.nearestWakeup.2 = some 9 ∧ w.NearestExact w.nearestWakeup.2 := by
  refine ⟨_, rfl, rfl, nearest_wakeup_exact.1 [.insert ⟨1⟩ 3 0, .remove ⟨0, 1⟩, .insert ⟨2⟩ 9 0] _ rfl ?_⟩
  simp [WheelOp.Positive]

end Vibeio.Timer
