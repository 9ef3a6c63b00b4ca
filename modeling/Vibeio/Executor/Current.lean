/-
# Executor.Current -- the runtime a thread is in, and who hears of a dropped operation

`CURRENT_RUNTIME` is a cell of the thread.  `block_on` and the drop of a `Runtime` put their
runtime into it and take it out again, and an operation that is dropped with a request under
way asks it for the driver that is to keep the request's data.  The driver of the request is
that of its handle; the one in the cell may be another, or none.

* `CurrentRuntimeGuard.enter`, `CurrentRuntimeGuard.drop`: the latter lets go of the runtime
  while it holds the cell, so what falls with the runtime finds the cell borrowed.
* `Guarded.tryCurrentDriver`: a drop finds the runtime whose `block_on` is on the stack, and
  nothing while a runtime is torn down.
* `Accounted`: every slot belongs to an operation that waits for it, or has the data of the
  one that was dropped.
* `drops_accounted_iff`: over every run, exactly if each operation with a slot is dropped
  inside `block_on` of the runtime it was submitted to.  `torn_down_unheard`: none of those
  that fall with their runtime is.
-/
import Vibeio.Driver.Basic
import Vibeio.Theory.Machine
import Mathlib.Logic.Function.Basic

namespace Vibeio.Executor

open Vibeio.Theory

set_option autoImplicit false

/-! ## The cell -/

/-- `RefCell<Option<Rc<RuntimeInner>>>`.  Shared borrows of it run no code of others. -/
structure CurrentRuntime where
  runtime : Option Nat
  borrowedMut : Bool
  deriving DecidableEq, Repr

namespace CurrentRuntime

/-- `none` is the panic of `borrow`. -/
def currentDriver (cell : CurrentRuntime) : Option (Option Nat) :=
  if cell.borrowedMut then none else some cell.runtime

def tryCurrentDriver (cell : CurrentRuntime) : Option Nat :=
  if cell.borrowedMut then none else cell.runtime

end CurrentRuntime

/-- `CurrentRuntimeGuard::enter`; `none` is its panic. -/
def CurrentRuntimeGuard.enter (cell : CurrentRuntime) (runtime : Nat) : Option CurrentRuntime :=
  if cell.runtime.isSome then none else some { cell with runtime := some runtime }

/-- `CurrentRuntimeGuard::drop`, while it lets go of the runtime and when it is done. -/
def CurrentRuntimeGuard.dropping (cell : CurrentRuntime) : CurrentRuntime := { cell with borrowedMut := true }

def CurrentRuntimeGuard.drop (_ : CurrentRuntime) : CurrentRuntime := ⟨none, false⟩

/-! ## A thread -/

/-- A `RuntimeInner`: the `Runtime` has it, or only clones of it that futures have, or nobody. -/
inductive InnerState where
  | absent
  | owned
  | cloned
  | dropped
  deriving DecidableEq, Repr

/-- A slot of a driver's slab: the operation whose request it is, and the one whose data it
has been given to keep. -/
structure RequestSlot where
  op : Nat
  ignored : Option Nat
  deriving DecidableEq, Repr

/-- `driver` is the runtime whose driver the handle of the operation has. -/
inductive OpPlace where
  | idle
  | waiting (driver token : Nat)
  | gone
  deriving DecidableEq, Repr

/-- `running` is the `block_on` on the stack, `dying` the runtime whose fields are being
dropped, `held` the runtime that alone holds the task of an operation. -/
structure RuntimeThread where
  cell : CurrentRuntime
  running : Option Nat
  dying : Option Nat
  inners : Nat → InnerState
  slots : Nat → Nat → Option RequestSlot
  ops : Nat → OpPlace
  held : Nat → Option Nat

inductive ThreadLabel where
  | build (runtime : Nat)
  | blockOn (runtime : Nat)
  /-- `block_on` returns or unwinds. -/
  | leave
  | hold (op runtime : Nat)
  | letGo (op : Nat)
  | submit (op driver token : Nat)
  | take (op : Nat)
  /-- The driver has read the completion of a request whose data it keeps. -/
  | reap (driver token : Nat)
  | dropOp (op : Nat)
  /-- `last`: no future has a clone. -/
  | dropRuntime (runtime : Nat) (last : Bool)
  | dropClone (runtime : Nat)
  | dropHeld (op : Nat)
  | dropped

/-- The operation that is dropped. -/
def ThreadLabel.drops : ThreadLabel → Option Nat
  | .dropOp op => some op
  | .dropHeld op => some op
  | _ => none

namespace RuntimeThread

def setSlot (s : RuntimeThread) (driver token : Nat) (slot : Option RequestSlot) : RuntimeThread :=
  { s with slots := Function.update s.slots driver (Function.update (s.slots driver) token slot) }

def ignoreCompletion (s : RuntimeThread) (driver token op : Nat) : RuntimeThread :=
  match s.slots driver token with
  | none => s
  | some slot => s.setSlot driver token (some { slot with ignored := some op })

/-- The drop of an operation. -/
def dropOperation (s : RuntimeThread) (op : Nat) : RuntimeThread :=
  let gone := { s with ops := Function.update s.ops op .gone, held := Function.update s.held op none }
  match s.ops op with
  | .waiting _ token =>
      match s.cell.tryCurrentDriver with
      | some driver => gone.ignoreCompletion driver token op
      | none => gone
  | _ => gone

/-- The last clone of a `RuntimeInner` goes, or one of several. -/
def dropInner (s : RuntimeThread) (runtime : Nat) (last : Bool) : RuntimeThread :=
  if last then { s with dying := some runtime }
  else { s with inners := Function.update s.inners runtime .cloned }

/-- `Runtime::drop`.  The guard has the last clone, unless `enter` panics. -/
def dropRuntime (s : RuntimeThread) (runtime : Nat) (last : Bool) : RuntimeThread :=
  match CurrentRuntimeGuard.enter s.cell runtime with
  | none => s.dropInner runtime last
  | some cell =>
      let dropping := { s with cell := CurrentRuntimeGuard.dropping cell }.dropInner runtime last
      if last then dropping else { dropping with cell := CurrentRuntimeGuard.drop cell }

/-- While a runtime is dropped nothing else happens on the thread. -/
def step (s : RuntimeThread) : ThreadLabel → Option RuntimeThread
  | .build runtime =>
      if s.dying = none ∧ s.inners runtime = .absent then
        some { s with inners := Function.update s.inners runtime .owned }
      else none
  | .blockOn runtime =>
      if s.dying = none ∧ s.inners runtime = .owned then
        match CurrentRuntimeGuard.enter s.cell runtime with
        | none => some s
        | some cell => some { s with cell := cell, running := some runtime }
      else none
  | .leave =>
      if s.dying = none ∧ s.running.isSome then
        some { s with cell := CurrentRuntimeGuard.drop s.cell, running := none }
      else none
  | .hold op runtime =>
      if s.dying = none ∧ s.ops op ≠ .gone ∧ (s.inners runtime = .owned ∨ s.inners runtime = .cloned) then
        some { s with held := Function.update s.held op (some runtime) }
      else none
  | .letGo op => if s.dying = none then some { s with held := Function.update s.held op none } else none
  | .submit op driver token =>
      if s.dying = none ∧ s.ops op = .idle ∧ s.slots driver token = none then
        some ({ s with ops := Function.update s.ops op (.waiting driver token) }.setSlot driver token
          (some ⟨op, none⟩))
      else none
  | .take op =>
      match s.ops op with
      | .waiting driver token =>
          if s.dying = none then
            some ({ s with ops := Function.update s.ops op .idle }.setSlot driver token none)
          else none
      | _ => none
  | .reap driver token =>
      match s.slots driver token with
      | some slot =>
          if s.dying = none ∧ slot.ignored.isSome then some (s.setSlot driver token none) else none
      | none => none
  | .dropOp op => if s.dying = none ∧ s.held op = none then some (s.dropOperation op) else none
  | .dropRuntime runtime last =>
      if s.dying = none ∧ s.inners runtime = .owned ∧ s.running ≠ some runtime then
        some (s.dropRuntime runtime last)
      else none
  | .dropClone runtime =>
      if s.dying = none ∧ s.inners runtime = .cloned then some { s with dying := some runtime } else none
  | .dropHeld op =>
      match s.dying with
      | some runtime => if s.held op = some runtime then some (s.dropOperation op) else none
      | none => none
  | .dropped =>
      match s.dying with
      | some runtime =>
          some { s with
            cell := if s.cell.borrowedMut then CurrentRuntimeGuard.drop s.cell else s.cell
            dying := none
            inners := Function.update s.inners runtime .dropped }
      | none => none

/-- No runtime yet, and no request. -/
structure Fresh (s : RuntimeThread) : Prop where
  cell : s.cell = ⟨none, false⟩
  running : s.running = none
  dying : s.dying = none
  slots : ∀ driver token, s.slots driver token = none
  ops : ∀ op, s.ops op = .idle

/-- The cell has the runtime whose `block_on` is on the stack; it is borrowed only while a
runtime is torn down, and then none is. -/
structure Guarded (s : RuntimeThread) : Prop where
  current : s.cell.borrowedMut = false → s.cell.runtime = s.running
  tornDown : s.cell.borrowedMut = true → s.running = none ∧ s.dying.isSome = true

def Accounted (s : RuntimeThread) : Prop :=
  ∀ driver token slot, s.slots driver token = some slot →
    (slot.ignored = none ∧ s.ops slot.op = .waiting driver token) ∨
      (slot.ignored = some slot.op ∧ s.ops slot.op = .gone)

/-- An operation with a slot is dropped inside `block_on` of its runtime. -/
def DropsInside (s : RuntimeThread) (label : ThreadLabel) : Prop :=
  ∀ op driver token, label.drops = some op → s.ops op = .waiting driver token → s.running = some driver

end RuntimeThread

def threadMachine : Machine RuntimeThread ThreadLabel where
  start := RuntimeThread.Fresh
  step := RuntimeThread.step

/-! ## The cell follows the stack -/

namespace RuntimeThread

variable {s s' : RuntimeThread}

theorem Guarded.tryCurrentDriver (guarded : s.Guarded) : s.cell.tryCurrentDriver = s.running := by
  unfold CurrentRuntime.tryCurrentDriver
  cases borrowed : s.cell.borrowedMut with
  | false => exact guarded.current borrowed
  | true => exact (guarded.tornDown borrowed).1.symm

theorem Guarded.currentDriver (guarded : s.Guarded) :
    s.cell.currentDriver = if s.cell.borrowedMut then none else some s.running := by
  unfold CurrentRuntime.currentDriver
  cases borrowed : s.cell.borrowedMut with
  | false => simp [guarded.current borrowed]
  | true => rfl

@[simp] theorem setSlot_slots (driver token : Nat) (slot : Option RequestSlot) (d t : Nat) :
    (s.setSlot driver token slot).slots d t = if d = driver ∧ t = token then slot else s.slots d t := by
  unfold setSlot
  by_cases here : d = driver
  · subst here
    by_cases same : t = token <;> simp [same]
  · simp [here]

/-- What a step does to slots and operations. -/
inductive StepKind (s s' : RuntimeThread) (label : ThreadLabel) : Prop where
  | beside (quiet : label.drops = none) (ops : s'.ops = s.ops) (slots : s'.slots = s.slots)
  | submitted (quiet : label.drops = none) (op driver token : Nat) (idle : s.ops op = .idle)
      (vacant : s.slots driver token = none)
      (ops : s'.ops = Function.update s.ops op (.waiting driver token))
      (slots : ∀ d t, s'.slots d t = if d = driver ∧ t = token then some ⟨op, none⟩ else s.slots d t)
  | taken (quiet : label.drops = none) (op driver token : Nat) (waiting : s.ops op = .waiting driver token)
      (ops : s'.ops = Function.update s.ops op .idle)
      (slots : ∀ d t, s'.slots d t = if d = driver ∧ t = token then none else s.slots d t)
  | reaped (quiet : label.drops = none) (driver token : Nat) (slot : RequestSlot)
      (here : s.slots driver token = some slot) (ignored : slot.ignored.isSome = true) (ops : s'.ops = s.ops)
      (slots : ∀ d t, s'.slots d t = if d = driver ∧ t = token then none else s.slots d t)
  | dropped (op : Nat) (drops : label.drops = some op) (after : s' = s.dropOperation op)

@[simp] theorem dropInner_ops (runtime : Nat) (last : Bool) : (s.dropInner runtime last).ops = s.ops := by
  cases last <;> rfl

@[simp] theorem dropInner_slots (runtime : Nat) (last : Bool) : (s.dropInner runtime last).slots = s.slots := by
  cases last <;> rfl

theorem dropRuntime_beside (runtime : Nat) (last : Bool) :
    (s.dropRuntime runtime last).ops = s.ops ∧ (s.dropRuntime runtime last).slots = s.slots := by
  unfold dropRuntime
  cases CurrentRuntimeGuard.enter s.cell runtime with
  | none => simp
  | some cell => cases last <;> simp

theorem step_kind {label : ThreadLabel} (stepped : s.step label = some s') : StepKind s s' label := by
  cases label with
  | build runtime =>
      simp only [step, Option.ite_none_right_eq_some, Option.some.injEq] at stepped
      obtain ⟨-, rfl⟩ := stepped
      exact .beside rfl rfl rfl
  | blockOn runtime =>
      simp only [step, Option.ite_none_right_eq_some] at stepped
      obtain ⟨-, entered⟩ := stepped
      split at entered <;> cases entered <;> exact .beside rfl rfl rfl
  | leave =>
      simp only [step, Option.ite_none_right_eq_some, Option.some.injEq] at stepped
      obtain ⟨-, rfl⟩ := stepped
      exact .beside rfl rfl rfl
  | hold op runtime =>
      simp only [step, Option.ite_none_right_eq_some, Option.some.injEq] at stepped
      obtain ⟨-, rfl⟩ := stepped
      exact .beside rfl rfl rfl
  | letGo op =>
      simp only [step, Option.ite_none_right_eq_some, Option.some.injEq] at stepped
      obtain ⟨-, rfl⟩ := stepped
      exact .beside rfl rfl rfl
  | submit op driver token =>
      simp only [step, Option.ite_none_right_eq_some, Option.some.injEq] at stepped
      obtain ⟨⟨-, idle, vacant⟩, rfl⟩ := stepped
      exact .submitted rfl op driver token idle vacant rfl fun d t => by simp
  | take op =>
      simp only [step] at stepped
      split at stepped
      · rename_i driver token waiting
        simp only [Option.ite_none_right_eq_some, Option.some.injEq] at stepped
        obtain ⟨-, rfl⟩ := stepped
        exact .taken rfl op driver token waiting rfl fun d t => by simp
      · cases stepped
  | reap driver token =>
      simp only [step] at stepped
      split at stepped
      · rename_i slot here
        simp only [Option.ite_none_right_eq_some, Option.some.injEq] at stepped
        obtain ⟨⟨-, ignored⟩, rfl⟩ := stepped
        exact .reaped rfl driver token slot here ignored rfl fun d t => by simp
      · cases stepped
  | dropOp op =>
      simp only [step, Option.ite_none_right_eq_some, Option.some.injEq] at stepped
      exact .dropped op rfl stepped.2.symm
  | dropRuntime runtime last =>
      simp only [step, Option.ite_none_right_eq_some, Option.some.injEq] at stepped
      obtain ⟨-, rfl⟩ := stepped
      obtain ⟨ops, slots⟩ := s.dropRuntime_beside runtime last
      exact .beside rfl ops slots
  | dropClone runtime =>
      simp only [step, Option.ite_none_right_eq_some, Option.some.injEq] at stepped
      obtain ⟨-, rfl⟩ := stepped
      exact .beside rfl rfl rfl
  | dropHeld op =>
      simp only [step] at stepped
      split at stepped
      · simp only [Option.ite_none_right_eq_some, Option.some.injEq] at stepped
        exact .dropped op rfl stepped.2.symm
      · cases stepped
  | dropped =>
      simp only [step] at stepped
      split at stepped
      · cases stepped
        exact .beside rfl rfl rfl
      · cases stepped

theorem ignoreCompletion_frame (driver token op : Nat) :
    (s.ignoreCompletion driver token op).cell = s.cell ∧
      (s.ignoreCompletion driver token op).running = s.running ∧
      (s.ignoreCompletion driver token op).dying = s.dying ∧
      (s.ignoreCompletion driver token op).ops = s.ops := by
  unfold ignoreCompletion
  split <;> exact ⟨rfl, rfl, rfl, rfl⟩

theorem dropOperation_frame (op : Nat) :
    (s.dropOperation op).cell = s.cell ∧ (s.dropOperation op).running = s.running ∧
      (s.dropOperation op).dying = s.dying ∧ (s.dropOperation op).ops = Function.update s.ops op .gone := by
  unfold dropOperation
  split
  · split
    · exact ignoreCompletion_frame _ _ _
    · exact ⟨rfl, rfl, rfl, rfl⟩
  · exact ⟨rfl, rfl, rfl, rfl⟩

theorem Guarded.same (guarded : s.Guarded) (cell : s'.cell = s.cell) (running : s'.running = s.running)
    (dying : s'.dying = s.dying) : s'.Guarded :=
  ⟨by rw [cell, running]; exact guarded.current, by rw [cell, running, dying]; exact guarded.tornDown⟩

/-- Between two calls the cell is free. -/
theorem Guarded.free (guarded : s.Guarded) (none : s.dying = none) : s.cell.borrowedMut = false := by
  cases borrowed : s.cell.borrowedMut with
  | false => rfl
  | true =>
      have dying := (guarded.tornDown borrowed).2
      rw [none] at dying
      cases dying

theorem Guarded.dropInner (guarded : s.Guarded) (none : s.dying = none) (runtime : Nat) (last : Bool) :
    (s.dropInner runtime last).Guarded := by
  have free := guarded.free none
  cases last with
  | false => exact guarded.same rfl rfl rfl
  | true =>
      refine ⟨guarded.current, fun borrowed => ?_⟩
      rw [show (s.dropInner runtime true).cell = s.cell from rfl, free] at borrowed
      cases borrowed

theorem Guarded.dropRuntime (guarded : s.Guarded) (none : s.dying = none) (runtime : Nat) (last : Bool) :
    (s.dropRuntime runtime last).Guarded := by
  unfold RuntimeThread.dropRuntime
  cases entered : CurrentRuntimeGuard.enter s.cell runtime with
  | none => exact guarded.dropInner none runtime last
  | some cell =>
      -- the guard is let in only where no runtime is current, so no `block_on` is running
      have idle : s.running = .none := by
        rw [← guarded.current (guarded.free none)]
        unfold CurrentRuntimeGuard.enter at entered
        cases current : s.cell.runtime with
        | none => rfl
        | some other => simp [current] at entered
      cases last with
      | true => exact ⟨fun free => (by cases free), fun _ => ⟨idle, rfl⟩⟩
      | false => exact ⟨fun _ => idle.symm, fun borrowed => (by cases borrowed)⟩

theorem Guarded.step {label : ThreadLabel} (guarded : s.Guarded) (stepped : s.step label = some s') :
    s'.Guarded := by
  cases label with
  | build runtime =>
      simp only [RuntimeThread.step, Option.ite_none_right_eq_some, Option.some.injEq] at stepped
      obtain ⟨-, rfl⟩ := stepped
      exact guarded.same rfl rfl rfl
  | blockOn runtime =>
      simp only [RuntimeThread.step, Option.ite_none_right_eq_some] at stepped
      obtain ⟨⟨none, -⟩, entered⟩ := stepped
      have free := guarded.free none
      unfold CurrentRuntimeGuard.enter at entered
      cases current : s.cell.runtime with
      | some other =>
          simp only [current, Option.isSome_some, if_true, Option.some.injEq] at entered
          exact entered ▸ guarded
      | none =>
          simp only [current, Option.isSome_none, Bool.false_eq_true, if_false, Option.some.injEq] at entered
          subst entered
          refine ⟨fun _ => rfl, fun borrowed => ?_⟩
          rw [show ({ s.cell with runtime := some runtime } : CurrentRuntime).borrowedMut = s.cell.borrowedMut
            from rfl, free] at borrowed
          cases borrowed
  | leave =>
      simp only [RuntimeThread.step, Option.ite_none_right_eq_some, Option.some.injEq] at stepped
      obtain ⟨-, rfl⟩ := stepped
      exact ⟨fun _ => rfl, fun borrowed => (by cases borrowed)⟩
  | dropRuntime runtime last =>
      simp only [RuntimeThread.step, Option.ite_none_right_eq_some, Option.some.injEq] at stepped
      obtain ⟨⟨none, -⟩, rfl⟩ := stepped
      exact guarded.dropRuntime none runtime last
  | dropClone runtime =>
      simp only [RuntimeThread.step, Option.ite_none_right_eq_some, Option.some.injEq] at stepped
      obtain ⟨⟨none, -⟩, rfl⟩ := stepped
      exact guarded.dropInner none runtime true
  | dropped =>
      simp only [RuntimeThread.step] at stepped
      split at stepped
      · cases stepped
        cases borrowed : s.cell.borrowedMut with
        | true =>
            have idle := (guarded.tornDown borrowed).1
            refine ⟨fun _ => ?_, fun still => ?_⟩
            · simp [CurrentRuntimeGuard.drop, idle]
            · simp [CurrentRuntimeGuard.drop] at still
        | false =>
            refine ⟨fun _ => by simpa using guarded.current borrowed, fun still => ?_⟩
            simp [borrowed] at still
      · cases stepped
  | dropOp op =>
      simp only [RuntimeThread.step, Option.ite_none_right_eq_some, Option.some.injEq] at stepped
      obtain ⟨-, rfl⟩ := stepped
      obtain ⟨cell, running, dying, -⟩ := s.dropOperation_frame op
      exact guarded.same cell running dying
  | dropHeld op =>
      simp only [RuntimeThread.step] at stepped
      split at stepped
      · simp only [Option.ite_none_right_eq_some, Option.some.injEq] at stepped
        obtain ⟨-, rfl⟩ := stepped
        obtain ⟨cell, running, dying, -⟩ := s.dropOperation_frame op
        exact guarded.same cell running dying
      · cases stepped
  | hold op runtime =>
      simp only [RuntimeThread.step, Option.ite_none_right_eq_some, Option.some.injEq] at stepped
      obtain ⟨-, rfl⟩ := stepped
      exact guarded.same rfl rfl rfl
  | letGo op =>
      simp only [RuntimeThread.step, Option.ite_none_right_eq_some, Option.some.injEq] at stepped
      obtain ⟨-, rfl⟩ := stepped
      exact guarded.same rfl rfl rfl
  | submit op driver token =>
      simp only [RuntimeThread.step, Option.ite_none_right_eq_some, Option.some.injEq] at stepped
      obtain ⟨-, rfl⟩ := stepped
      exact guarded.same rfl rfl rfl
  | take op =>
      simp only [RuntimeThread.step] at stepped
      split at stepped
      · simp only [Option.ite_none_right_eq_some, Option.some.injEq] at stepped
        obtain ⟨-, rfl⟩ := stepped
        exact guarded.same rfl rfl rfl
      · cases stepped
  | reap driver token =>
      simp only [RuntimeThread.step] at stepped
      split at stepped
      · simp only [Option.ite_none_right_eq_some, Option.some.injEq] at stepped
        obtain ⟨-, rfl⟩ := stepped
        exact guarded.same rfl rfl rfl
      · cases stepped

/-! ## Slots -/

structure Kept (s : RuntimeThread) : Prop where
  guarded : s.Guarded
  accounted : s.Accounted
  /-- An operation that waits has its slot. -/
  waiting : ∀ op driver token, s.ops op = .waiting driver token → s.slots driver token = some ⟨op, none⟩

theorem Fresh.kept (fresh : s.Fresh) : s.Kept := by
  refine ⟨⟨fun _ => ?_, fun borrowed => ?_⟩, fun driver token slot here => ?_, fun op driver token waits => ?_⟩
  · rw [fresh.cell, fresh.running]
  · rw [fresh.cell] at borrowed
    cases borrowed
  · rw [fresh.slots driver token] at here
    cases here
  · rw [fresh.ops op] at waits
    cases waits

/-- A slot whose operation is not `op` does not depend on what becomes of `op`. -/
theorem Accounted.elsewhere {place : OpPlace} {op driver token : Nat} {slot : RequestSlot}
    (accounted : s.Accounted) (here : s.slots driver token = some slot) (other : slot.op ≠ op) :
    (slot.ignored = none ∧ Function.update s.ops op place slot.op = .waiting driver token) ∨
      (slot.ignored = some slot.op ∧ Function.update s.ops op place slot.op = .gone) := by
  rw [Function.update_of_ne other]
  exact accounted driver token slot here

/-- The operation of a slot is not idle. -/
theorem Accounted.not_idle {op driver token : Nat} {slot : RequestSlot} (accounted : s.Accounted)
    (here : s.slots driver token = some slot) (idle : s.ops op = .idle) : slot.op ≠ op := by
  rintro rfl
  obtain ⟨-, waits⟩ | ⟨-, gone⟩ := accounted driver token slot here
  · cases idle.symm.trans waits
  · cases idle.symm.trans gone

/-- The slot of an operation that waits is the only one it has. -/
theorem Accounted.own_slot {op driver token d t : Nat} {slot : RequestSlot} (accounted : s.Accounted)
    (waits : s.ops op = .waiting driver token) (here : s.slots d t = some slot)
    (elsewhere : ¬ (d = driver ∧ t = token)) : slot.op ≠ op := by
  rintro rfl
  obtain ⟨-, there⟩ | ⟨-, gone⟩ := accounted d t slot here
  · cases waits.symm.trans there
    exact elsewhere ⟨rfl, rfl⟩
  · cases waits.symm.trans gone

/-- A drop inside `block_on` of its runtime: the slot gets the data. -/
theorem dropOperation_inside {op driver token : Nat} (kept : s.Kept) (waits : s.ops op = .waiting driver token)
    (inside : s.running = some driver) (d t : Nat) :
    (s.dropOperation op).slots d t =
      if d = driver ∧ t = token then some ⟨op, some op⟩ else s.slots d t := by
  unfold dropOperation
  simp only [waits, kept.guarded.tryCurrentDriver, inside, ignoreCompletion,
    kept.waiting op driver token waits, setSlot_slots]

/-- A drop anywhere else: the slot hears nothing. -/
theorem dropOperation_outside {op driver token : Nat} (kept : s.Kept) (waits : s.ops op = .waiting driver token)
    (outside : s.running ≠ some driver) :
    (s.dropOperation op).slots driver token = some ⟨op, none⟩ := by
  have own := kept.waiting op driver token waits
  unfold dropOperation
  simp only [waits, kept.guarded.tryCurrentDriver]
  cases current : s.running with
  | none => exact own
  | some other =>
      have apart : driver ≠ other := by
        rintro rfl
        exact outside current
      simp only [ignoreCompletion]
      cases s.slots other token with
      | none => exact own
      | some slot =>
          simp only [setSlot_slots, apart, false_and, if_false]
          exact own

theorem dropOperation_unslotted {op : Nat} (unslotted : ∀ driver token, s.ops op ≠ .waiting driver token) :
    (s.dropOperation op).slots = s.slots := by
  unfold dropOperation
  split
  · rename_i driver token waits
    exact absurd waits (unslotted driver token)
  · rfl

/-- One slot is given to `op`, taken from it, or told of its drop. -/
theorem Kept.change {op driver token : Nat} {place : OpPlace} {slot : Option RequestSlot} (kept : s.Kept)
    (guarded : s'.Guarded) (ops : s'.ops = Function.update s.ops op place)
    (slots : ∀ d t, s'.slots d t = if d = driver ∧ t = token then slot else s.slots d t)
    (own : ∀ d t old, s.slots d t = some old → (old.op = op ↔ d = driver ∧ t = token))
    (told : ∀ new, slot = some new → new.op = op ∧
      ((new.ignored = none ∧ place = .waiting driver token) ∨ (new.ignored = some op ∧ place = .gone)))
    (waits : ∀ d t, place = .waiting d t → d = driver ∧ t = token ∧ slot = some ⟨op, none⟩) : s'.Kept := by
  refine ⟨guarded, fun d t new here => ?_, fun other d t place' => ?_⟩
  · rw [ops]
    rw [slots] at here
    split at here
    · rename_i spot
      obtain ⟨rfl, rfl⟩ := spot
      obtain ⟨rfl, told⟩ := told new here
      rw [Function.update_self]
      exact told
    · rename_i elsewhere
      exact kept.accounted.elsewhere here fun same => elsewhere ((own d t new here).mp same)
  · rw [ops] at place'
    rw [slots]
    by_cases same : other = op
    · subst same
      rw [Function.update_self] at place'
      obtain ⟨rfl, rfl, given⟩ := waits d t place'
      rw [if_pos ⟨rfl, rfl⟩, given]
    · rw [Function.update_of_ne same] at place'
      have there := kept.waiting other d t place'
      rw [if_neg, there]
      intro spot
      exact same ((own d t _ there).mpr spot)

theorem Kept.own {op driver token : Nat} (kept : s.Kept) (waits : s.ops op = .waiting driver token)
    (d t : Nat) (old : RequestSlot) (here : s.slots d t = some old) :
    old.op = op ↔ d = driver ∧ t = token := by
  constructor
  · intro same
    by_contra elsewhere
    exact kept.accounted.own_slot waits here elsewhere same
  · rintro ⟨rfl, rfl⟩
    cases (kept.waiting op d t waits).symm.trans here
    rfl

/-- An operation without a slot is dropped. -/
theorem Kept.dropUnslotted {op : Nat} (kept : s.Kept) (guarded : (s.dropOperation op).Guarded)
    (unslotted : ∀ driver token, s.ops op ≠ .waiting driver token) : (s.dropOperation op).Kept := by
  have ops := (s.dropOperation_frame op).2.2.2
  have slots := dropOperation_unslotted unslotted
  refine ⟨guarded, fun d t slot here => ?_, fun other d t waits => ?_⟩
  · rw [slots] at here
    rw [ops]
    by_cases own : slot.op = op
    · obtain ⟨-, waits⟩ | ⟨ignored, -⟩ := kept.accounted d t slot here
      · rw [own] at waits
        exact absurd waits (unslotted d t)
      · exact .inr ⟨ignored, by rw [own, Function.update_self]⟩
    · exact kept.accounted.elsewhere here own
  · rw [ops] at waits
    rw [slots]
    by_cases same : other = op
    · subst same
      rw [Function.update_self] at waits
      cases waits
    · rw [Function.update_of_ne same] at waits
      exact kept.waiting other d t waits

theorem Kept.step {label : ThreadLabel} (kept : s.Kept) (inside : s.DropsInside label)
    (stepped : s.step label = some s') : s'.Kept := by
  have guarded := kept.guarded.step stepped
  cases step_kind stepped with
  | beside _ ops slots =>
      refine ⟨guarded, fun driver token slot here => ?_, fun op driver token waits => ?_⟩
      · rw [slots] at here
        rw [ops]
        exact kept.accounted driver token slot here
      · rw [ops] at waits
        rw [slots]
        exact kept.waiting op driver token waits
  | submitted _ op driver token idle vacant ops slots =>
      refine kept.change guarded ops slots (fun d t old here => ?_) (fun new given => ?_) fun d t waits => ?_
      · refine iff_of_false (kept.accounted.not_idle here idle) ?_
        rintro ⟨rfl, rfl⟩
        cases vacant.symm.trans here
      · cases given
        exact ⟨rfl, .inl ⟨rfl, rfl⟩⟩
      · cases waits
        exact ⟨rfl, rfl, rfl⟩
  | taken _ op driver token waits ops slots =>
      exact kept.change guarded ops slots (kept.own waits) (fun _ given => by cases given)
        fun _ _ waits => by cases waits
  | reaped _ driver token slot found ignored ops slots =>
      refine ⟨guarded, fun d t other here => ?_, fun op d t waits => ?_⟩
      · rw [ops]
        rw [slots] at here
        split at here
        · cases here
        · exact kept.accounted d t other here
      · rw [ops] at waits
        rw [slots]
        have there := kept.waiting op d t waits
        rw [if_neg, there]
        rintro ⟨rfl, rfl⟩
        cases found.symm.trans there
        cases ignored
  | dropped op drops after =>
      subst after
      cases place : s.ops op with
      | waiting driver token =>
          refine kept.change guarded (s.dropOperation_frame op).2.2.2
            (dropOperation_inside kept place (inside op driver token drops place)) (kept.own place)
            (fun new given => ?_) fun _ _ waits => by cases waits
          cases given
          exact ⟨rfl, .inr ⟨rfl, rfl⟩⟩
      | idle => exact kept.dropUnslotted guarded (by simp [place])
      | gone => exact kept.dropUnslotted guarded (by simp [place])

theorem Kept.broken {label : ThreadLabel} (kept : s.Kept) (outside : ¬ s.DropsInside label)
    (stepped : s.step label = some s') : ¬ s'.Accounted := by
  simp only [DropsInside, not_forall] at outside
  obtain ⟨op, driver, token, drops, waits, outside⟩ := outside
  have after : s' = s.dropOperation op := by
    cases step_kind stepped with
    | beside quiet => cases quiet.symm.trans drops
    | submitted quiet => cases quiet.symm.trans drops
    | taken quiet => cases quiet.symm.trans drops
    | reaped quiet => cases quiet.symm.trans drops
    | dropped other others after =>
        cases others.symm.trans drops
        exact after
  subst after
  intro accounted
  have unheard := dropOperation_outside kept waits outside
  obtain ⟨-, still⟩ | ⟨ignored, -⟩ := accounted driver token _ unheard
  · rw [(s.dropOperation_frame op).2.2.2, Function.update_self] at still
    cases still
  · cases ignored

end RuntimeThread

/-- What the cell tells in every state of every run: to a drop, the runtime whose `block_on`
is on the stack; to anybody else the same, or a panic while a runtime falls. -/
theorem current_runtime {s : RuntimeThread} (reachable : threadMachine.Reachable s) :
    s.cell.tryCurrentDriver = s.running ∧
      s.cell.currentDriver = if s.cell.borrowedMut then none else some s.running := by
  have guarded : s.Guarded :=
    Machine.invariant (I := RuntimeThread.Guarded) (fun _ fresh => (RuntimeThread.Fresh.kept fresh).guarded)
    (fun _ _ _ guarded stepped => RuntimeThread.Guarded.step guarded stepped) reachable
  exact ⟨guarded.tryCurrentDriver, guarded.currentDriver⟩

/-- What falls with its runtime falls outside every `block_on`. -/
theorem torn_down_unheard {s : RuntimeThread} (reachable : threadMachine.Reachable s)
    (falls : s.cell.borrowedMut = true) {op driver token : Nat} (waits : s.ops op = .waiting driver token) :
    ¬ s.DropsInside (.dropHeld op) := by
  intro inside
  have lookup := (current_runtime reachable).1
  rw [CurrentRuntime.tryCurrentDriver, falls, if_pos rfl, inside op driver token rfl waits] at lookup
  cases lookup

/-- **Who hears of a dropped operation.**  For every run of a thread with any number of
runtimes, entered, left, dropped and torn down, with operations submitted to any of their
drivers, moved between them and dropped: in every state each slot of each driver belongs to
an operation that waits for it or keeps the data of the one that was dropped, if and only if
every operation with a slot is dropped inside `block_on` of the runtime it was submitted to. -/
theorem drops_accounted_iff {s t : RuntimeThread} {labels : List ThreadLabel} (fresh : s.Fresh)
    (ran : threadMachine.exec s labels = some t) :
    threadMachine.Throughout RuntimeThread.Accounted s labels ↔
      threadMachine.AllSteps RuntimeThread.DropsInside s labels :=
  Machine.throughout_iff_allSteps (fun _ _ _ kept inside stepped => RuntimeThread.Kept.step kept inside stepped)
    (fun _ kept => kept.accounted)
    (fun _ _ _ kept outside stepped => RuntimeThread.Kept.broken kept outside stepped) fresh.kept ran

def RuntimeThread.new : RuntimeThread :=
  ⟨⟨none, false⟩, none, none, fun _ => .absent, fun _ _ => none, fun _ => .idle, fun _ => none⟩

/-- `block_on` returns while a woken task waits in its queue, with a request under way in slot
5, and the runtime is dropped. -/
def tornDown : List ThreadLabel :=
  [.build 0, .blockOn 0, .submit 0 0 5, .hold 0 0, .leave, .dropRuntime 0 true, .dropHeld 0, .dropped]

theorem drops_accounted_torn_down :
    ∃ t, threadMachine.exec .new tornDown = some t ∧ t.slots 0 5 = some ⟨0, none⟩ ∧ t.ops 0 = .gone ∧
      (threadMachine.Throughout RuntimeThread.Accounted .new tornDown ↔
        threadMachine.AllSteps RuntimeThread.DropsInside .new tornDown) :=
  ⟨_, rfl, rfl, rfl, drops_accounted_iff ⟨rfl, rfl, rfl, fun _ _ => rfl, fun _ => rfl⟩ rfl⟩

end Vibeio.Executor
