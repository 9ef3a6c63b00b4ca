/-
# Timer.Placement -- slots, entries and slab stay in step

`Placed` is the representation invariant of the wheel: the index of a live entry
stands once in the slot its entry names and nowhere else, and a slot holds no
other index.  While a slot is being drained its indices are in no slot at all;
`PlacedExcept pending` is the invariant with those indices taken out.

A sweep (`cascade_all_levels` and the level-0 loops of `advance`) drains a list
of places.  `Drained places before after` says what that does, entry by entry
(`visit`): an entry met while due leaves the slab and its waker is returned, an
entry met while not due is moved, any other entry is untouched.  The relation
composes along the list, so the nested loops need no argument of their own.
-/
import Vibeio.Timer.Wheel
import Mathlib.Algebra.Order.Group.Multiset

namespace Vibeio.Timer

set_option autoImplicit false

open Vibeio.Theory

/-- What an entry stands for, without where it is stored. -/
structure LiveTimer where
  handle : TimerHandle
  expirationTick : Nat
  waker : Waker
  deriving DecidableEq, Repr

def TimerEntry.timer (slabIndex : Nat) (entry : TimerEntry) : LiveTimer where
  handle := { slabIndex, generation := entry.generation }
  expirationTick := entry.expirationTick
  waker := entry.waker

namespace TimingWheel

/-- The abstract content of the wheel: its live timers. -/
def timers (w : TimingWheel) : Multiset LiveTimer :=
  w.entries.items.map fun item => item.2.timer item.1

/-- The handle names a live entry of its own generation. -/
def Live (w : TimingWheel) (handle : TimerHandle) : Prop :=
  ∃ entry, w.entries.get handle.slabIndex = some entry ∧ entry.generation = handle.generation

/-! ## Slots -/

theorem slotAt_setSlot (w : TimingWheel) (level level' : Level) (slot slot' : Slot)
    (indices : List Nat) :
    (w.setSlot level slot indices).slotAt level' slot' =
      if level' = level ∧ slot' = slot then indices else w.slotAt level' slot' := by
  simp only [slotAt, setSlot, Fin.getElem_fin, Vector.getElem_set]
  by_cases sameLevel : level' = level
  · subst sameLevel
    by_cases sameSlot : slot' = slot
    · simp [sameSlot]
    · simp [sameSlot, Fin.val_ne_of_ne (Ne.symm sameSlot)]
  · simp [sameLevel, Fin.val_ne_of_ne (Ne.symm sameLevel)]

@[simp] theorem setSlot_entries (w : TimingWheel) (level : Level) (slot : Slot) (indices : List Nat) :
    (w.setSlot level slot indices).entries = w.entries := rfl

@[simp] theorem setSlot_currentTick (w : TimingWheel) (level : Level) (slot : Slot)
    (indices : List Nat) : (w.setSlot level slot indices).currentTick = w.currentTick := rfl

@[simp] theorem setSlot_generationCounter (w : TimingWheel) (level : Level) (slot : Slot)
    (indices : List Nat) :
    (w.setSlot level slot indices).generationCounter = w.generationCounter := rfl

@[simp] theorem slotAt_new (level : Level) (slot : Slot) : new.slotAt level slot = [] := by
  simp [slotAt, new]

/-! ## The representation invariant -/

/-- How often `wheels[level][slot]` should hold `index`. -/
def expected (w : TimingWheel) (index : Nat) (level : Level) (slot : Slot) : Nat :=
  match w.entries.get index with
  | some entry => if entry.level = level ∧ entry.slot = slot then 1 else 0
  | none => 0

structure PlacedExcept (w : TimingWheel) (pending : List Nat) : Prop where
  nodup : pending.Nodup
  live : ∀ index ∈ pending, ∃ entry, w.entries.get index = some entry
  count : ∀ level slot index,
    (w.slotAt level slot).count index = if index ∈ pending then 0 else w.expected index level slot

def Placed (w : TimingWheel) : Prop := w.PlacedExcept []

theorem Placed.count {w : TimingWheel} (placed : w.Placed) (level : Level) (slot : Slot) (index : Nat) :
    (w.slotAt level slot).count index = w.expected index level slot := by
  simpa using PlacedExcept.count placed level slot index

theorem Placed.mem_slot {w : TimingWheel} (placed : w.Placed) {level : Level} {slot : Slot}
    {index : Nat} :
    index ∈ w.slotAt level slot ↔
      ∃ entry, w.entries.get index = some entry ∧ entry.level = level ∧ entry.slot = slot := by
  rw [← List.count_pos_iff, placed.count, expected]
  cases w.entries.get index with
  | none => simp
  | some entry =>
      by_cases here : entry.level = level ∧ entry.slot = slot <;> simp [here]

theorem Placed.slot_nodup {w : TimingWheel} (placed : w.Placed) (level : Level) (slot : Slot) :
    (w.slotAt level slot).Nodup := by
  rw [List.nodup_iff_count_le_one]
  intro index
  rw [placed.count, expected]
  split <;> [split; skip] <;> omega

theorem placed_of_count {w : TimingWheel}
    (count : ∀ level slot index, (w.slotAt level slot).count index = w.expected index level slot) :
    w.Placed :=
  ⟨List.nodup_nil, by simp, fun level slot index => by simpa using count level slot index⟩

/-- Fields other than entries and wheels do not matter for placement. -/
theorem Placed.congr {w w' : TimingWheel} (placed : w.Placed) (entries : w'.entries = w.entries)
    (wheels : w'.wheels = w.wheels) : w'.Placed := by
  refine placed_of_count fun level slot index => ?_
  have := placed.count level slot index
  simpa only [slotAt, expected, entries, wheels] using this

theorem new_placed : new.Placed :=
  placed_of_count fun level slot index => by
    rw [slotAt_new]
    simp [expected, new]

/-! ## One call -/

/-- Everything `insert` changes that the results below speak about. -/
theorem insert_spec {w w' : TimingWheel} {waker : Waker} {expirationTick slabIndex : Nat}
    {handle : TimerHandle} (inserted : w.insert waker expirationTick slabIndex = some (w', handle)) :
    ∃ entry : TimerEntry, entry.waker = waker ∧ entry.expirationTick = expirationTick ∧
      entry.generation = w.generationCounter + 1 ∧
      (entry.level, entry.slot) = calculateLevelAndSlot (expirationTick - w.currentTick) ∧
      handle = ⟨slabIndex, entry.generation⟩ ∧
      w'.entries = w.entries.insert slabIndex entry ∧
      (∀ level slot, w'.slotAt level slot =
        if level = entry.level ∧ slot = entry.slot then w.slotAt level slot ++ [slabIndex]
        else w.slotAt level slot) ∧
      w'.currentTick = w.currentTick ∧ w'.generationCounter = w.generationCounter + 1 := by
  simp only [insert, Option.map_eq_some_iff, Prod.mk.injEq, addU64_eq_some] at inserted
  obtain ⟨generation, ⟨rfl, -⟩, rfl, rfl⟩ := inserted
  refine ⟨_, rfl, rfl, rfl, rfl, rfl, rfl, fun level slot => ?_, rfl, rfl⟩
  simp only [updateMinOnInsert]
  change (setSlot _ _ _ _).slotAt level slot = _
  rw [slotAt_setSlot]
  split
  · rename_i here
    rw [here.1, here.2]
    rfl
  · rfl

theorem insert_placed {w w' : TimingWheel} {waker : Waker} {expirationTick slabIndex : Nat}
    {handle : TimerHandle} (placed : w.Placed) (vacant : w.entries.get slabIndex = none)
    (inserted : w.insert waker expirationTick slabIndex = some (w', handle)) : w'.Placed := by
  obtain ⟨entry, -, -, -, -, -, entries, slots, -, -⟩ := insert_spec inserted
  refine placed_of_count fun level slot index => ?_
  have before := placed.count level slot index
  rw [slots, expected, entries, Slab.get_insert]
  by_cases same : index = slabIndex
  · subst same
    simp only [expected, vacant] at before
    by_cases here : level = entry.level ∧ slot = entry.slot
    · obtain ⟨rfl, rfl⟩ := here
      simp [before]
    · have elsewhere : ¬ (entry.level = level ∧ entry.slot = slot) := fun h => here ⟨h.1.symm, h.2.symm⟩
      simp [here, elsewhere, before]
  · have kept : (w.slotAt level slot ++ [slabIndex]).count index = (w.slotAt level slot).count index := by
      simp [List.count_append, Ne.symm same]
    rw [if_neg same]
    split
    · rw [kept]; exact before
    · exact before

/-- `remove` through a handle that names no live timer is the identity. -/
theorem remove_of_not_live {w : TimingWheel} {handle : TimerHandle} (stale : ¬ w.Live handle) :
    w.remove handle = w := by
  unfold remove
  cases found : w.entries.get handle.slabIndex with
  | none => rfl
  | some entry => exact if_neg fun same => stale ⟨entry, found, same⟩

theorem remove_spec {w : TimingWheel} {handle : TimerHandle} {entry : TimerEntry}
    (found : w.entries.get handle.slabIndex = some entry)
    (generation : entry.generation = handle.generation) :
    (w.remove handle).entries = w.entries.remove handle.slabIndex ∧
      (∀ level slot, (w.remove handle).slotAt level slot =
        if level = entry.level ∧ slot = entry.slot then
          (w.slotAt level slot).erase handle.slabIndex
        else w.slotAt level slot) ∧
      (w.remove handle).currentTick = w.currentTick ∧
      (w.remove handle).generationCounter = w.generationCounter := by
  simp only [remove, found, generation, if_true]
  refine ⟨rfl, fun level slot => ?_, rfl, rfl⟩
  change (setSlot _ _ _ _).slotAt level slot = _
  rw [slotAt_setSlot]
  split
  · rename_i here
    rw [here.1, here.2]
  · rfl

theorem remove_placed {w : TimingWheel} (placed : w.Placed) (handle : TimerHandle) :
    (w.remove handle).Placed := by
  by_cases live : w.Live handle
  · obtain ⟨entry, found, generation⟩ := live
    obtain ⟨entries, slots, -, -⟩ := remove_spec found generation
    refine placed_of_count fun level slot index => ?_
    have before := placed.count level slot index
    rw [slots, expected, entries, Slab.get_remove]
    by_cases same : index = handle.slabIndex
    · subst same
      simp only [expected, found] at before
      by_cases here : level = entry.level ∧ slot = entry.slot
      · obtain ⟨rfl, rfl⟩ := here
        simp [before]
      · have elsewhere : ¬ (entry.level = level ∧ entry.slot = slot) :=
          fun h => here ⟨h.1.symm, h.2.symm⟩
        simp [here, elsewhere, before]
    · rw [if_neg same]
      split
      · rw [List.count_erase_of_ne same]; exact before
      · exact before
  · rw [remove_of_not_live live]
    exact placed

/-! ## Draining a slot -/

/-- What meeting an entry does to it: `none` when it is due, its new place
otherwise. -/
def settled (currentTick : Nat) (entry : TimerEntry) : Option TimerEntry :=
  if entry.expirationTick ≤ currentTick then none
  else
    let place := calculateLevelAndSlot (entry.expirationTick - currentTick)
    some { entry with level := place.1, slot := place.2 }

/-- The timers that left between two wheels, and the wakers handed out for them. -/
def Fires (before after : Sweep) : Prop :=
  ∃ fired : Multiset LiveTimer, before.1.timers = after.1.timers + fired ∧
    (after.2 : Multiset Waker) = before.2 + fired.map (·.waker) ∧
    ∀ timer ∈ fired, timer.expirationTick ≤ before.1.currentTick

theorem Fires.refl (sweep : Sweep) : Fires sweep sweep := ⟨0, by simp⟩

theorem Fires.trans {a b c : Sweep} (first : Fires a b) (second : Fires b c)
    (tick : b.1.currentTick = a.1.currentTick) : Fires a c := by
  obtain ⟨fired, content, wakers, due⟩ := first
  obtain ⟨fired', content', wakers', due'⟩ := second
  refine ⟨fired' + fired, ?_, ?_, ?_⟩
  · rw [content, content', add_assoc]
  · rw [wakers', wakers, Multiset.map_add, add_assoc, add_comm (Multiset.map _ fired)]
  · intro timer member
    rcases Multiset.mem_add.mp member with new | old
    · exact tick ▸ due' timer new
    · exact due timer old

theorem timers_remove {w : TimingWheel} {index : Nat} {entry : TimerEntry}
    (found : w.entries.get index = some entry) :
    w.timers = entry.timer index ::ₘ { w with entries := w.entries.remove index }.timers := by
  simp only [timers, Slab.items_remove found, Multiset.map_cons]

theorem settle_due {sweep : Sweep} {index : Nat} {entry : TimerEntry} {rest : List Nat}
    (placed : sweep.1.PlacedExcept (index :: rest)) (found : sweep.1.entries.get index = some entry)
    (due : entry.expirationTick ≤ sweep.1.currentTick) :
    (settle sweep index).1.PlacedExcept rest ∧ Fires sweep (settle sweep index) ∧
      (settle sweep index).1.entries = sweep.1.entries.remove index := by
  obtain ⟨absent, nodup⟩ := List.nodup_cons.mp placed.nodup
  have result : settle sweep index =
      ({ sweep.1 with entries := sweep.1.entries.remove index }, sweep.2 ++ [entry.waker]) := by
    simp [settle, found, due]
  rw [result]
  refine ⟨⟨nodup, fun j member => ?_, fun level slot j => ?_⟩, ⟨{entry.timer index}, ?_⟩, rfl⟩
  · have different : j ≠ index := fun same => absent (same ▸ member)
    obtain ⟨other, stored⟩ := placed.live j (List.mem_cons_of_mem _ member)
    exact ⟨other, by simpa [Slab.get_remove, different] using stored⟩
  · have before := placed.count level slot j
    change (sweep.1.slotAt level slot).count j = _
    rw [before, expected, expected, Slab.get_remove]
    by_cases same : j = index
    · simp [same]
    · simp [same]
  · refine ⟨?_, ?_, by simpa [TimerEntry.timer] using due⟩
    · rw [timers_remove found, Multiset.add_comm, Multiset.singleton_add]
    · simp [TimerEntry.timer, ← Multiset.coe_add]

theorem settle_later {sweep : Sweep} {index : Nat} {entry : TimerEntry} {rest : List Nat}
    (placed : sweep.1.PlacedExcept (index :: rest)) (found : sweep.1.entries.get index = some entry)
    (later : ¬ entry.expirationTick ≤ sweep.1.currentTick) :
    (settle sweep index).1.PlacedExcept rest ∧ Fires sweep (settle sweep index) ∧
      ∃ moved, settled sweep.1.currentTick entry = some moved ∧
        ∀ j, (settle sweep index).1.entries.get j =
          if j = index then some moved else sweep.1.entries.get j := by
  obtain ⟨absent, nodup⟩ := List.nodup_cons.mp placed.nodup
  let place := calculateLevelAndSlot (entry.expirationTick - sweep.1.currentTick)
  let moved : TimerEntry := { entry with level := place.1, slot := place.2 }
  let stored : TimingWheel := { sweep.1 with
    entries := sweep.1.entries.modify index fun e => { e with level := place.1, slot := place.2 } }
  have result : settle sweep index =
      (stored.setSlot place.1 place.2 (sweep.1.slotAt place.1 place.2 ++ [index]), sweep.2) := by
    simp only [settle, found, if_neg later]
    rfl
  have lookup : ∀ j, stored.entries.get j = if j = index then some moved else sweep.1.entries.get j := by
    intro j
    simp only [stored, Slab.get_modify, found, Option.map_some]
    rfl
  rw [result]
  refine ⟨⟨nodup, fun j member => ?_, fun level slot j => ?_⟩, ⟨0, ?_, by simp, by simp⟩, moved, ?_, lookup⟩
  · have different : j ≠ index := fun same => absent (same ▸ member)
    obtain ⟨other, kept⟩ := placed.live j (List.mem_cons_of_mem _ member)
    exact ⟨other, by rw [setSlot_entries, lookup, if_neg different]; exact kept⟩
  · have before := placed.count level slot j
    rw [slotAt_setSlot]
    change _ = if j ∈ rest then 0 else expected stored j level slot
    rw [expected, lookup]
    by_cases same : j = index
    · subst same
      rw [if_pos (List.mem_cons_self ..)] at before
      by_cases here : level = place.1 ∧ slot = place.2
      · obtain ⟨rfl, rfl⟩ := here
        simp [moved, absent, before]
      · have elsewhere : ¬ (place.1 = level ∧ place.2 = slot) := fun h => here ⟨h.1.symm, h.2.symm⟩
        simp only [if_neg here, if_true, if_neg absent, moved, if_neg elsewhere]
        exact before
    · have untouched : (sweep.1.slotAt level slot).count j =
          if j ∈ rest then 0 else sweep.1.expected j level slot := by
        simpa [same] using before
      have appended : (sweep.1.slotAt level slot ++ [index]).count j =
          (sweep.1.slotAt level slot).count j := by simp [List.count_append, Ne.symm same]
      rw [if_neg same]
      split
      · rename_i here
        rw [← here.1, ← here.2, appended]
        exact untouched
      · exact untouched
  · have content : stored.timers = sweep.1.timers := by
      simp only [timers, stored, Slab.items_modify found, Slab.items_remove found, Multiset.map_cons]
      rfl
    rw [add_zero]
    exact content.symm
  · simp only [settled, if_neg later]
    rfl

/-- Settling every pending index: the invariant closes again, and exactly the
pending entries were met. -/
theorem foldl_settle (pending : List Nat) :
    ∀ sweep : Sweep, sweep.1.PlacedExcept pending →
      (pending.foldl settle sweep).1.Placed ∧ Fires sweep (pending.foldl settle sweep) ∧
      (pending.foldl settle sweep).1.currentTick = sweep.1.currentTick ∧
      (pending.foldl settle sweep).1.generationCounter = sweep.1.generationCounter ∧
      ∀ j, (pending.foldl settle sweep).1.entries.get j =
        if j ∈ pending then (sweep.1.entries.get j).bind (settled sweep.1.currentTick)
        else sweep.1.entries.get j := by
  induction pending with
  | nil => exact fun sweep placed => ⟨placed, Fires.refl sweep, rfl, rfl, fun j => by simp⟩
  | cons index rest ih =>
      intro sweep placed
      obtain ⟨absent, -⟩ := List.nodup_cons.mp placed.nodup
      obtain ⟨entry, found⟩ := placed.live index (List.mem_cons_self ..)
      have tick : (settle sweep index).1.currentTick = sweep.1.currentTick := by
        simp only [settle, found]
        split <;> rfl
      have counter : (settle sweep index).1.generationCounter = sweep.1.generationCounter := by
        simp only [settle, found]
        split <;> rfl
      have met : (settle sweep index).1.PlacedExcept rest ∧ Fires sweep (settle sweep index) ∧
          ∀ j, (settle sweep index).1.entries.get j =
            if j = index then settled sweep.1.currentTick entry else sweep.1.entries.get j := by
        by_cases due : entry.expirationTick ≤ sweep.1.currentTick
        · obtain ⟨next, fires, entries⟩ := settle_due placed found due
          refine ⟨next, fires, fun j => ?_⟩
          rw [entries, Slab.get_remove, settled, if_pos due]
        · obtain ⟨next, fires, moved, isMoved, lookup⟩ := settle_later placed found due
          exact ⟨next, fires, fun j => by rw [lookup, isMoved]⟩
      obtain ⟨next, fires, lookup⟩ := met
      obtain ⟨done, onward, tick', counter', lookup'⟩ := ih (settle sweep index) next
      refine ⟨done, fires.trans onward tick, tick'.trans tick, counter'.trans counter, fun j => ?_⟩
      rw [List.foldl_cons, lookup', lookup, tick]
      by_cases same : j = index
      · subst same
        simp [absent, found]
      · simp [same]

/-- What draining one place does to one entry. -/
def meet (currentTick : Nat) (entry : TimerEntry) (place : Level × Slot) : Option TimerEntry :=
  if entry.level = place.1 ∧ entry.slot = place.2 then settled currentTick entry else some entry

/-- What draining a list of places does to one entry. -/
def visit (currentTick : Nat) (places : List (Level × Slot)) (entry : TimerEntry) :
    Option TimerEntry :=
  places.foldlM (meet currentTick) entry

/-- The effect of draining `places`, in order. -/
structure Drained (places : List (Level × Slot)) (before after : Sweep) : Prop where
  placed : after.1.Placed
  fires : Fires before after
  tick : after.1.currentTick = before.1.currentTick
  counter : after.1.generationCounter = before.1.generationCounter
  lookup : ∀ j, after.1.entries.get j =
    (before.1.entries.get j).bind (visit before.1.currentTick places)

theorem Drained.refl {sweep : Sweep} (placed : sweep.1.Placed) : Drained [] sweep sweep :=
  ⟨placed, Fires.refl sweep, rfl, rfl, fun j => by cases sweep.1.entries.get j <;> rfl⟩

theorem Drained.trans {front back : List (Level × Slot)} {a b c : Sweep}
    (first : Drained front a b) (second : Drained back b c) : Drained (front ++ back) a c where
  placed := second.placed
  fires := first.fires.trans second.fires first.tick
  tick := second.tick.trans first.tick
  counter := second.counter.trans first.counter
  lookup j := by
    rw [second.lookup, first.lookup, first.tick, Option.bind_assoc]
    congr 1
    funext entry
    simp only [visit, List.foldlM_append]
    rfl

theorem drainSlot_drained {sweep : Sweep} (placed : sweep.1.Placed) (level : Level) (slot : Slot) :
    Drained [(level, slot)] sweep (drainSlot level sweep slot) := by
  let indices := sweep.1.slotAt level slot
  -- the slot has been taken: its indices are the pending ones
  have taken : (sweep.1.setSlot level slot []).PlacedExcept indices := by
    refine ⟨placed.slot_nodup level slot, fun j member => ?_, fun level' slot' j => ?_⟩
    · obtain ⟨entry, found, -⟩ := placed.mem_slot.mp member
      exact ⟨entry, found⟩
    · rw [slotAt_setSlot]
      by_cases member : j ∈ indices
      · obtain ⟨entry, found, sameLevel, sameSlot⟩ := placed.mem_slot.mp member
        rw [if_pos member]
        split
        · simp
        · rename_i elsewhere
          rw [placed.count, expected, found]
          simp only [sameLevel, sameSlot]
          exact if_neg fun h => elsewhere ⟨h.1.symm, h.2.symm⟩
      · rw [if_neg member]
        split
        · rename_i here
          obtain ⟨rfl, rfl⟩ := here
          rw [List.count_nil]
          change 0 = sweep.1.expected j level' slot'
          rw [← placed.count]
          exact (List.count_eq_zero.mpr member).symm
        · exact placed.count level' slot' j
  obtain ⟨done, fires, tick, counter, lookup⟩ :=
    foldl_settle indices (sweep.1.setSlot level slot [], sweep.2) taken
  refine ⟨done, fires, tick, counter, fun j => ?_⟩
  refine (lookup j).trans ?_
  change (if j ∈ indices then (sweep.1.entries.get j).bind (settled sweep.1.currentTick)
    else sweep.1.entries.get j) = _
  by_cases member : j ∈ indices
  · obtain ⟨entry, found, sameLevel, sameSlot⟩ := placed.mem_slot.mp member
    simp [member, found, visit, meet, sameLevel, sameSlot]
  · rw [if_neg member]
    cases found : sweep.1.entries.get j with
    | none => rfl
    | some entry =>
        have elsewhere : ¬ (entry.level = level ∧ entry.slot = slot) :=
          fun h => member (placed.mem_slot.mpr ⟨entry, found, h⟩)
        simp [visit, meet, elsewhere]

/-- A loop whose every round drains some places drains them all. -/
theorem foldl_drained {ι : Type} {round : Sweep → ι → Sweep} {places : ι → List (Level × Slot)}
    (drains : ∀ sweep i, sweep.1.Placed → Drained (places i) sweep (round sweep i))
    (rounds : List ι) {sweep : Sweep} (placed : sweep.1.Placed) :
    Drained (rounds.flatMap places) sweep (rounds.foldl round sweep) := by
  induction rounds generalizing sweep with
  | nil => exact Drained.refl placed
  | cons i rest ih =>
      have first := drains sweep i placed
      exact first.trans (ih first.placed)

theorem cascadeLevel_drained {sweep : Sweep} (placed : sweep.1.Placed) (level : Level) :
    Drained ((List.finRange 64).flatMap fun slot => [(level, slot)]) sweep (cascadeLevel sweep level) :=
  foldl_drained (fun _ slot inner => drainSlot_drained inner level slot) _ placed

/-- The places of the levels above 0, in the order `cascade_all_levels` drains them. -/
def cascadePlaces : List (Level × Slot) :=
  upperLevels.flatMap fun level =>
    (List.finRange 64).flatMap fun slot => [(level, slot)]

theorem cascadeAllLevels_drained (sweep : Sweep) (placed : sweep.1.Placed) :
    Drained cascadePlaces sweep (cascadeAllLevels sweep) :=
  foldl_drained (fun _ level inner => cascadeLevel_drained inner level) _ placed

theorem mem_cascadePlaces (level : Level) (slot : Slot) :
    (level, slot) ∈ cascadePlaces ↔ level ≠ 0 := by
  have above : level ∈ upperLevels ↔ level ≠ 0 := by
    revert level
    decide
  simp [cascadePlaces, ← above]

/-! ## What a visit leaves -/

/-- Two entries of one timer: they differ at most in level and slot. -/
def SameTimer (a b : TimerEntry) : Prop :=
  a.waker = b.waker ∧ a.expirationTick = b.expirationTick ∧ a.generation = b.generation

theorem visit_later {currentTick : Nat} {entry : TimerEntry} (places : List (Level × Slot))
    (later : ¬ entry.expirationTick ≤ currentTick) :
    ∃ moved, visit currentTick places entry = some moved ∧ SameTimer moved entry := by
  induction places generalizing entry with
  | nil => exact ⟨entry, rfl, rfl, rfl, rfl⟩
  | cons place rest ih =>
      by_cases here : entry.level = place.1 ∧ entry.slot = place.2
      · let target := calculateLevelAndSlot (entry.expirationTick - currentTick)
        obtain ⟨moved, visited, same⟩ :=
          @ih { entry with level := target.1, slot := target.2 } later
        refine ⟨moved, ?_, same⟩
        simpa [visit, meet, here, settled, later] using visited
      · obtain ⟨moved, visited, same⟩ := ih later
        exact ⟨moved, by simpa [visit, meet, here] using visited, same⟩

theorem visit_due {currentTick : Nat} {entry : TimerEntry} (places : List (Level × Slot))
    (due : entry.expirationTick ≤ currentTick) :
    visit currentTick places entry =
      if (entry.level, entry.slot) ∈ places then none else some entry := by
  induction places with
  | nil => rfl
  | cons place rest ih =>
      by_cases here : entry.level = place.1 ∧ entry.slot = place.2
      · simp [visit, meet, here, settled, due]
      · have different : (entry.level, entry.slot) ≠ place := fun same => here (same ▸ ⟨rfl, rfl⟩)
        simpa [visit, meet, here, different] using ih

end TimingWheel

end Vibeio.Timer
