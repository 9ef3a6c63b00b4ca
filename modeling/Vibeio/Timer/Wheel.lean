/-
# Timer.Wheel -- the hierarchical timing wheel of `timer.rs`

A definition-by-definition model of `TimingWheel`: seven levels of 64 slots, a
slab of entries that remember the level and slot they were put in, the heap
behind `nearest_wakeup`, and the operations `insert`, `remove` and `advance`.

* Level and slot are `Fin 7` and `Fin 64`: an out-of-range position cannot be
  built, and `calculateLevelAndSlot` shows the code never computes one.
* The slab index of a new entry is an argument of `insert`; which vacant index
  the slab picks is not the wheel's choice.
* `BinaryHeap<Reverse<_>>` is the list of its elements in ascending order: `peek`
  is the head, `pop` the tail.
* `advance` and `insert` return `none` where the `u64` addition overflows.

The inner loops of `cascade_level` and `process_slot_at_level_0` are the same
code on different slots; it is written once, as `drainSlot`.
-/
import Vibeio.Core
import Vibeio.Theory.Slab
import Vibeio.Theory.Machine
import Mathlib.Data.List.Sort
import Mathlib.Data.List.FinRange

namespace Vibeio.Timer

set_option autoImplicit false

open Vibeio.Theory

/-- `NUM_LEVELS` and `SLOTS_PER_LEVEL`. -/
abbrev Level := Fin 7

abbrev Slot := Fin 64

structure TimerHandle where
  slabIndex : Nat
  generation : Nat
  deriving DecidableEq, Repr

structure TimerEntry where
  waker : Waker
  expirationTick : Nat
  generation : Nat
  level : Level
  slot : Slot
  deriving DecidableEq, Repr

/-- An element `(expiration_tick, slab_index, generation)` of the heap. -/
structure HeapEntry where
  expirationTick : Nat
  slabIndex : Nat
  generation : Nat
  deriving DecidableEq, Repr

/-- The lexicographic order of the tuples. -/
def HeapEntry.before (a b : HeapEntry) : Bool :=
  a.expirationTick < b.expirationTick ||
    (a.expirationTick == b.expirationTick &&
      (a.slabIndex < b.slabIndex || (a.slabIndex == b.slabIndex && a.generation ≤ b.generation)))

def heapPush (entry : HeapEntry) (heap : List HeapEntry) : List HeapEntry :=
  heap.orderedInsert (fun a b => a.before b) entry

structure TimingWheel where
  entries : Slab TimerEntry
  wheels : Vector (Vector (List Nat) 64) 7
  currentTick : Nat
  generationCounter : Nat
  minExpirationTick : Option Nat
  expirationHeap : List HeapEntry

namespace TimingWheel

def new : TimingWheel where
  entries := .empty
  wheels := Vector.replicate 7 (Vector.replicate 64 [])
  currentTick := 0
  generationCounter := 0
  minExpirationTick := none
  expirationHeap := []

def isEmpty (w : TimingWheel) : Bool := w.entries.isEmpty

def now (w : TimingWheel) : Nat := w.currentTick

/-- `self.wheels[level][slot]`. -/
def slotAt (w : TimingWheel) (level : Level) (slot : Slot) : List Nat :=
  w.wheels[level][slot]

/-- Assign `self.wheels[level][slot]`. -/
def setSlot (w : TimingWheel) (level : Level) (slot : Slot) (indices : List Nat) : TimingWheel :=
  { w with
    wheels := w.wheels.set level.val (w.wheels[level].set slot.val indices slot.isLt) level.isLt }

/-- The loop of `refresh_min_expiration`: pop stale heap entries until the top
one names a live entry of its generation. -/
def refreshHeap (entries : Slab TimerEntry) : List HeapEntry → List HeapEntry × Option Nat
  | [] => ([], none)
  | top :: rest =>
      match entries.get top.slabIndex with
      | some entry =>
          if entry.generation = top.generation then (top :: rest, some entry.expirationTick)
          else refreshHeap entries rest
      | none => refreshHeap entries rest

def refreshMinExpiration (w : TimingWheel) : TimingWheel :=
  let refreshed := refreshHeap w.entries w.expirationHeap
  { w with expirationHeap := refreshed.1, minExpirationTick := refreshed.2 }

/-- The nearest wakeup tick; a tick of zero has no `NonZeroU64`. -/
def nearestWakeup (w : TimingWheel) : TimingWheel × Option Nat :=
  let w := w.refreshMinExpiration
  (w, w.minExpirationTick.filter (· ≠ 0))

def updateMinOnInsert (w : TimingWheel) (expirationTick : Nat) : TimingWheel :=
  { w with
    minExpirationTick := some (w.minExpirationTick.elim expirationTick (min · expirationTick)) }

/-! ## Placement -/

/-- `((delay >> 6 * level) & 63) as usize`. -/
def slotOfDelay (delay : Nat) (level : Level) : Slot :=
  ⟨(delay >>> (6 * level.val)) &&& 63, Nat.lt_succ_of_le Nat.and_le_right⟩

/-- The first level the delay fits in; the top level takes every delay.  The
`for` loop with its early returns is `find?`, and its fallback is the last arm. -/
def calculateLevelAndSlot (delay : Nat) : Level × Slot :=
  match (List.finRange 7).find? fun level => level = 6 ∨ delay ≤ (64 <<< (6 * level.val)) - 1 with
  | some level => (level, slotOfDelay delay level)
  | none => (6, slotOfDelay delay 6)

def insert (w : TimingWheel) (waker : Waker) (expirationTick slabIndex : Nat) :
    Option (TimingWheel × TimerHandle) :=
  let delay := expirationTick - w.currentTick
  let place := calculateLevelAndSlot delay
  (addU64 w.generationCounter 1).map fun generation =>
    let w := { w with
      generationCounter := generation
      entries := w.entries.insert slabIndex
        { waker, expirationTick, generation, level := place.1, slot := place.2 } }
    let w := w.setSlot place.1 place.2 (w.slotAt place.1 place.2 ++ [slabIndex])
    let w := { w with
      expirationHeap := heapPush { expirationTick, slabIndex, generation } w.expirationHeap }
    (w.updateMinOnInsert expirationTick, { slabIndex, generation })

def remove (w : TimingWheel) (handle : TimerHandle) : TimingWheel :=
  match w.entries.get handle.slabIndex with
  | none => w
  | some entry =>
      if entry.generation = handle.generation then
        -- `position` then `remove(pos)`: the first occurrence goes, if there is one
        let w := w.setSlot entry.level entry.slot
          ((w.slotAt entry.level entry.slot).erase handle.slabIndex)
        { w with entries := w.entries.remove handle.slabIndex }.refreshMinExpiration
      else w

/-! ## Advancing -/

/-- The wheel together with `expired_wakers`. -/
abbrev Sweep := TimingWheel × List Waker

/-- The loop body shared by `cascade_level` and `process_slot_at_level_0`: a due
timer leaves the slab, any other is put where its remaining delay belongs. -/
def settle (sweep : Sweep) (slabIndex : Nat) : Sweep :=
  let w := sweep.1
  match w.entries.get slabIndex with
  | none => sweep
  | some entry =>
      if entry.expirationTick ≤ w.currentTick then
        ({ w with entries := w.entries.remove slabIndex }, sweep.2 ++ [entry.waker])
      else
        let place := calculateLevelAndSlot (entry.expirationTick - w.currentTick)
        let w := { w with
          entries := w.entries.modify slabIndex fun e => { e with level := place.1, slot := place.2 } }
        (w.setSlot place.1 place.2 (w.slotAt place.1 place.2 ++ [slabIndex]), sweep.2)

/-- Take the indices of one slot and settle each of them. -/
def drainSlot (level : Level) (sweep : Sweep) (slot : Slot) : Sweep :=
  (sweep.1.slotAt level slot).foldl settle (sweep.1.setSlot level slot [], sweep.2)

def cascadeLevel (sweep : Sweep) (level : Level) : Sweep :=
  (List.finRange 64).foldl (drainSlot level) sweep

/-- `(1..NUM_LEVELS).rev()`. -/
def upperLevels : List Level := [6, 5, 4, 3, 2, 1]

def cascadeAllLevels (sweep : Sweep) : Sweep := upperLevels.foldl cascadeLevel sweep

abbrev level0 : Level := 0

def processSlotAtLevel0 (sweep : Sweep) (slot : Slot) : Sweep := drainSlot level0 sweep slot

/-- The slots `lo .. hi` in ascending order. -/
def slotRange (lo hi : Nat) : List Slot :=
  (List.finRange 64).filter fun slot => lo ≤ slot.val ∧ slot.val < hi

/-- The level-0 slots that `advance` processes, in order, by its three branches. -/
def slotsToProcess (startTick currentTick ticks : Nat) : List Slot :=
  let startSlot := startTick &&& 63
  let endSlot := currentTick &&& 63
  if 64 ≤ ticks then slotRange 0 64
  else if startSlot ≤ endSlot then slotRange startSlot (endSlot + 1)
  else slotRange startSlot 64 ++ slotRange 0 (endSlot + 1)

def advance (w : TimingWheel) (ticks : Nat) : Option Sweep :=
  if ticks = 0 then some (w, [])
  else
    (addU64 w.currentTick ticks).map fun currentTick =>
      let startTick := w.currentTick
      let sweep := cascadeAllLevels ({ w with currentTick }, [])
      let sweep :=
        (slotsToProcess startTick currentTick ticks).foldl processSlotAtLevel0 sweep
      (sweep.1.refreshMinExpiration, sweep.2)

end TimingWheel

/-! ## The wheel as a machine -/

/-- A call on the wheel.  `insert` also names the index the slab hands out. -/
inductive WheelOp where
  | insert (waker : Waker) (expirationTick slabIndex : Nat)
  | remove (handle : TimerHandle)
  | advance (ticks : Nat)
  deriving DecidableEq, Repr

/-- One call.  An insertion needs a vacant index; an overflow ends the run. -/
def WheelOp.apply (w : TimingWheel) : WheelOp → Option TimingWheel
  | .insert waker expirationTick slabIndex =>
      if (w.entries.get slabIndex).isNone then
        (w.insert waker expirationTick slabIndex).map (·.1)
      else none
  | .remove handle => some (w.remove handle)
  | .advance ticks => (w.advance ticks).map (·.1)

/-- Every sequence of calls on a new wheel. -/
def wheelMachine : Machine TimingWheel WheelOp where
  start w := w = .new
  step := WheelOp.apply

end Vibeio.Timer
