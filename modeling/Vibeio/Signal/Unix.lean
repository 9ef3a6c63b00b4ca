/-
# Signal.Unix -- delivery of signals to listeners, and the handlers behind them

Two machines, for the two things that more than one thread does at a time.

Delivery is about one `SignalState`: a counter and a list of wakers that has a lock of its
own.  A poll of a listener loads the counter and then, if it has not moved, puts its waker
into the list; a dispatch moves the counter, takes the list, and wakes what it took one by
one.  Each of these is a step, and any listeners and dispatchers take theirs in any order.

Installation is about the registry and the dispositions of the system.  `register_signal`
holds the lock of the registry while it installs the handler, so it is one step;
`unregister_signal` removes the last entry under the lock and restores the old disposition
after it has let go, so it is two.

* `signal_wakes_or_keeps_waker`: a waker leaves the list only to be woken.
* `signal_wakes_unless_raced`: what a listener sees when no dispatch falls between the two
  steps of its poll.
* `handler_follows_listeners`: entry, disposition and count agree in every run in which no
  handler is installed while the old one waits to be restored.
-/
import Vibeio.Core
import Vibeio.Theory.Machine
import Mathlib.Logic.Function.Basic

namespace Vibeio.Signal

set_option autoImplicit false

open Vibeio.Theory

/-! ## Delivery -/

/-- What the latest `poll_recv` returned. -/
inductive Received where
  | never
  | pending (waker : Waker)
  | ready
  deriving DecidableEq, Repr

/-- A `Signal`.  `registering` is the waker of a poll that has found the counter where it
was and has not reached the list yet.  `woken` says whether the waker of the latest
`Pending` has been woken since. -/
structure Listener where
  lastSeen : Nat
  registering : Option Waker
  latest : Received
  woken : Bool
  deriving DecidableEq, Repr

/-- `dispatch_signal` between its steps: it has moved the counter and not taken the list,
or it has taken these wakers and not woken them. -/
structure Dispatcher where
  incremented : Bool
  holds : List Waker
  deriving DecidableEq, Repr

/-- A `SignalState` with its listeners and the dispatches under way. -/
structure Delivery where
  counter : Nat
  wakers : List Waker
  listeners : Nat → Option Listener
  dispatchers : Nat → Dispatcher

inductive DeliveryStep where
  /-- `Signal::new` loads the counter; `Drop` forgets the listener. -/
  | listen (l : Nat)
  | drop (l : Nat)
  /-- The two steps of `poll_recv`. -/
  | load (l : Nat) (waker : Waker)
  | register (l : Nat)
  /-- The steps of `dispatch_signal`. -/
  | increment (d : Nat)
  | take (d : Nat)
  | wake (d : Nat)
  deriving DecidableEq, Repr

/-- `register_waker`: in the place of one that would wake the same task, else at the end. -/
def registerWaker : List Waker → Waker → List Waker
  | [], waker => [waker]
  | existing :: rest, waker =>
      if existing.willWake waker then waker :: rest else existing :: registerWaker rest waker

namespace Delivery

def setListener (s : Delivery) (l : Nat) (listener : Option Listener) : Delivery :=
  { s with listeners := Function.update s.listeners l listener }

def setDispatcher (s : Delivery) (d : Nat) (dispatcher : Dispatcher) : Delivery :=
  { s with dispatchers := Function.update s.dispatchers d dispatcher }

/-- Waking a waker, as the listeners that wait with it see it. -/
def markWoken (waker : Waker) (listener : Listener) : Listener :=
  if listener.latest = .pending waker then { listener with woken := true } else listener

def step (s : Delivery) : DeliveryStep → Option Delivery
  | .listen l =>
      match s.listeners l with
      | none => some (s.setListener l (some ⟨s.counter, none, .never, false⟩))
      | some _ => none
  | .drop l =>
      match s.listeners l with
      | some ⟨_, none, _, _⟩ => some (s.setListener l none)
      | _ => none
  | .load l waker =>
      match s.listeners l with
      | some ⟨lastSeen, none, latest, woken⟩ =>
          if s.counter ≠ lastSeen then some (s.setListener l (some ⟨s.counter, none, .ready, woken⟩))
          else some (s.setListener l (some ⟨lastSeen, some waker, latest, woken⟩))
      | _ => none
  | .register l =>
      match s.listeners l with
      | some ⟨lastSeen, some waker, _, _⟩ =>
          some { s.setListener l (some ⟨lastSeen, none, .pending waker, false⟩) with
            wakers := registerWaker s.wakers waker }
      | _ => none
  | .increment d =>
      if s.dispatchers d = ⟨false, []⟩ then
        -- `fetch_add` wraps
        some { s.setDispatcher d ⟨true, []⟩ with counter := asU64 (s.counter + 1) }
      else none
  | .take d =>
      if s.dispatchers d = ⟨true, []⟩ then
        some { s.setDispatcher d ⟨false, s.wakers⟩ with wakers := [] }
      else none
  | .wake d =>
      match s.dispatchers d with
      | ⟨false, waker :: rest⟩ =>
          some { s.setDispatcher d ⟨false, rest⟩ with
            listeners := fun l => (s.listeners l).map (markWoken waker) }
      | _ => none

/-- A new `SignalState`. -/
def new : Delivery := ⟨0, [], fun _ => none, fun _ => ⟨false, []⟩⟩

/-- Listener `l` is in a state the wording rules out: its latest poll returned `Pending`,
the counter has moved, and its waker is neither in the list nor held by a dispatch. -/
def Unattended (s : Delivery) (l : Nat) (listener : Listener) : Prop :=
  s.listeners l = some listener ∧ s.counter ≠ listener.lastSeen ∧
    ∃ waker, listener.latest = .pending waker ∧ waker ∉ s.wakers ∧ ∀ d, waker ∉ (s.dispatchers d).holds

end Delivery

def deliveryMachine : Machine Delivery DeliveryStep where
  start s := s = .new
  step := Delivery.step

/-! ## Installation -/

/-- A `sigaction`: vibeio's `signal_handler`, or any other. -/
inductive Action where
  | signalHandler
  | other (id : Nat)
  deriving DecidableEq, Repr

/-- An entry of the registry, without the state of its listeners. -/
structure RegisteredSignal where
  refs : Nat
  prevAction : Action
  deriving DecidableEq, Repr

/-- The registry and the dispositions in force.  `restoring` lists the calls of
`unregister_signal` that have removed an entry and not restored its disposition;
`live` counts the `Signal` values of each number. -/
structure Installation where
  registry : Int → Option RegisteredSignal
  disposition : Int → Action
  restoring : List (Int × Action)
  live : Int → Nat

inductive InstallationStep where
  | register (signum : Int)
  | unregister (signum : Int)
  | restore (signum : Int) (prevAction : Action)
  deriving DecidableEq, Repr

namespace Installation

-- `sigaction` fails for the numbers that are not `valid`
variable (valid : Int → Bool)

/-- `register_signal`: with an entry it counts, without one it installs the handler. -/
def registerSignal (s : Installation) (signum : Int) : Installation :=
  match s.registry signum with
  | some entry =>
      { s with
        registry := Function.update s.registry signum (some { entry with refs := entry.refs + 1 })
        live := Function.update s.live signum (s.live signum + 1) }
  | none =>
      if valid signum then
        { s with
          registry := Function.update s.registry signum (some ⟨1, s.disposition signum⟩)
          disposition := Function.update s.disposition signum .signalHandler
          live := Function.update s.live signum (s.live signum + 1) }
      else s

/-- The critical section of `unregister_signal`, run by the drop of a `Signal`. -/
def unregisterSignal (s : Installation) (signum : Int) : Installation :=
  let s := { s with live := Function.update s.live signum (s.live signum - 1) }
  match s.registry signum with
  | none => s
  | some entry =>
      if 1 < entry.refs then
        { s with registry := Function.update s.registry signum (some { entry with refs := entry.refs - 1 }) }
      else
        { s with
          registry := Function.update s.registry signum none
          restoring := (signum, entry.prevAction) :: s.restoring }

def step (s : Installation) : InstallationStep → Option Installation
  | .register signum => some (s.registerSignal valid signum)
  | .unregister signum => if 0 < s.live signum then some (s.unregisterSignal signum) else none
  | .restore signum prevAction =>
      if (signum, prevAction) ∈ s.restoring then
        some { s with
          disposition := Function.update s.disposition signum prevAction
          restoring := s.restoring.erase (signum, prevAction) }
      else none

/-- No listener yet, and the dispositions `original` of the process. -/
def new (original : Int → Action) : Installation := ⟨fun _ => none, original, [], fun _ => 0⟩

/-- No `unregister_signal` of this number is between its two steps. -/
def Settled (s : Installation) (signum : Int) : Prop := ∀ prevAction, (signum, prevAction) ∉ s.restoring

/-- **The handler follows the listeners.** -/
structure Follows (original : Int → Action) (s : Installation) : Prop where
  installed : ∀ signum entry, s.Settled signum → s.registry signum = some entry →
    s.disposition signum = .signalHandler
  restored : ∀ signum, s.Settled signum → s.registry signum = none → s.disposition signum = original signum
  counted : ∀ signum, s.live signum = (s.registry signum).elim 0 (·.refs)

/-- The handler of a number is not installed while its old disposition waits to be
restored. -/
def Unhurried (s : Installation) : InstallationStep → Prop
  | .register signum => s.registry signum = none → s.Settled signum
  | _ => True

end Installation

def installationMachine (valid : Int → Bool) (original : Int → Action) :
    Machine Installation InstallationStep where
  start s := s = .new original
  step := Installation.step valid

/-! ## No waker is dropped -/

theorem mem_registerWaker {wakers : List Waker} {waker other : Waker} :
    other ∈ registerWaker wakers waker ↔ other = waker ∨ other ∈ wakers := by
  induction wakers with
  | nil => simp [registerWaker]
  | cons existing rest ih =>
      unfold registerWaker
      by_cases same : existing = waker
      · simp [Waker.willWake, same]
      · simp only [Waker.willWake, beq_iff_eq, if_neg same, List.mem_cons, ih]
        exact or_left_comm

namespace Delivery

/-- The waker of a listener that waits is in the list, held by a dispatch, or has been
woken since. -/
def Attended (s : Delivery) (listener : Listener) : Prop :=
  ∀ waker, listener.latest = .pending waker →
    waker ∈ s.wakers ∨ (∃ d, waker ∈ (s.dispatchers d).holds) ∨ listener.woken = true

def AllAttended (s : Delivery) : Prop := ∀ l listener, s.listeners l = some listener → s.Attended listener

@[simp] theorem setListener_listeners (s : Delivery) (l k : Nat) (listener : Option Listener) :
    (s.setListener l listener).listeners k = if k = l then listener else s.listeners k := by
  simp only [setListener, Function.update_apply]

@[simp] theorem setDispatcher_dispatchers (s : Delivery) (d k : Nat) (dispatcher : Dispatcher) :
    (s.setDispatcher d dispatcher).dispatchers k = if k = d then dispatcher else s.dispatchers k := by
  simp only [setDispatcher, Function.update_apply]

/-- A listener is changed and the wakers only grow: what there is to show is about it. -/
theorem AllAttended.setListener {s s' : Delivery} {l : Nat} {listener : Option Listener}
    (attended : s.AllAttended) (listeners : s'.listeners = (s.setListener l listener).listeners)
    (dispatchers : s'.dispatchers = s.dispatchers) (wakers : ∀ waker ∈ s.wakers, waker ∈ s'.wakers)
    (changed : ∀ now, listener = some now → s'.Attended now) : s'.AllAttended := by
  intro k other found
  rw [listeners, setListener_listeners] at found
  split at found
  · exact changed other found
  · intro waker pending
    rcases attended k other found waker pending with listed | ⟨d, held⟩ | woken
    · exact Or.inl (wakers waker listed)
    · exact Or.inr (Or.inl ⟨d, by rw [dispatchers]; exact held⟩)
    · exact Or.inr (Or.inr woken)

/-- A dispatcher takes or lets go of wakers, and every waker that has been in the list or
with it is still in one of the places. -/
theorem AllAttended.setDispatcher {s s' : Delivery} {d : Nat} {dispatcher : Dispatcher}
    (attended : s.AllAttended) (listeners : s'.listeners = s.listeners)
    (dispatchers : s'.dispatchers = (s.setDispatcher d dispatcher).dispatchers)
    (kept : ∀ waker, waker ∈ s.wakers ∨ waker ∈ (s.dispatchers d).holds →
      waker ∈ s'.wakers ∨ waker ∈ dispatcher.holds) : s'.AllAttended := by
  have here : dispatcher.holds = (s'.dispatchers d).holds := by
    rw [dispatchers, setDispatcher_dispatchers, if_pos rfl]
  have settle : ∀ waker, waker ∈ s.wakers ∨ waker ∈ (s.dispatchers d).holds →
      waker ∈ s'.wakers ∨ ∃ e, waker ∈ (s'.dispatchers e).holds := by
    intro waker place
    rcases kept waker place with listed | held
    · exact Or.inl listed
    · exact Or.inr ⟨d, here ▸ held⟩
  intro l listener found waker pending
  rw [listeners] at found
  rw [← or_assoc]
  rcases attended l listener found waker pending with listed | ⟨e, held⟩ | woken
  · exact Or.inl (settle waker (Or.inl listed))
  · left
    by_cases same : e = d
    · exact settle waker (Or.inr (same ▸ held))
    · refine Or.inr ⟨e, ?_⟩
      rw [dispatchers, setDispatcher_dispatchers, if_neg same]
      exact held
  · exact Or.inr woken

/-- Everything a step can do. -/
inductive Stepped (s : Delivery) : DeliveryStep → Delivery → Prop where
  | listen (l : Nat) : Stepped s (.listen l) (s.setListener l (some ⟨s.counter, none, .never, false⟩))
  | drop (l : Nat) : Stepped s (.drop l) (s.setListener l none)
  | received (l : Nat) (waker : Waker) (woken : Bool) :
      Stepped s (.load l waker) (s.setListener l (some ⟨s.counter, none, .ready, woken⟩))
  | still (l : Nat) (waker : Waker) (listener : Listener) (found : s.listeners l = some listener) :
      Stepped s (.load l waker) (s.setListener l (some { listener with registering := some waker }))
  | register (l : Nat) (waker : Waker) (listener : Listener) (found : s.listeners l = some listener) :
      Stepped s (.register l)
        { s.setListener l (some ⟨listener.lastSeen, none, .pending waker, false⟩) with
          wakers := registerWaker s.wakers waker }
  | increment (d : Nat) (idle : s.dispatchers d = ⟨false, []⟩) :
      Stepped s (.increment d) { s.setDispatcher d ⟨true, []⟩ with counter := asU64 (s.counter + 1) }
  | take (d : Nat) (idle : s.dispatchers d = ⟨true, []⟩) :
      Stepped s (.take d) { s.setDispatcher d ⟨false, s.wakers⟩ with wakers := [] }
  | wake (d : Nat) (waker : Waker) (rest : List Waker) (holding : s.dispatchers d = ⟨false, waker :: rest⟩) :
      Stepped s (.wake d) { s.setDispatcher d ⟨false, rest⟩ with
        listeners := fun l => (s.listeners l).map (markWoken waker) }

theorem step_cases {s s' : Delivery} {i : DeliveryStep} (stepped : Delivery.step s i = some s') :
    s.Stepped i s' := by
  cases i with
  | listen l =>
      simp only [Delivery.step] at stepped
      split at stepped <;> cases stepped
      exact .listen l
  | drop l =>
      simp only [Delivery.step] at stepped
      split at stepped <;> cases stepped
      exact .drop l
  | load l waker =>
      simp only [Delivery.step] at stepped
      split at stepped
      · rename_i lastSeen latest woken found
        split at stepped <;> cases stepped
        · exact .received l waker woken
        · exact .still l waker ⟨lastSeen, none, latest, woken⟩ found
      · cases stepped
  | register l =>
      simp only [Delivery.step] at stepped
      split at stepped <;> cases stepped
      rename_i lastSeen waker latest woken found
      exact .register l waker ⟨lastSeen, some waker, latest, woken⟩ found
  | increment d =>
      simp only [Delivery.step, Option.ite_none_right_eq_some, Option.some.injEq] at stepped
      obtain ⟨idle, rfl⟩ := stepped
      exact .increment d idle
  | take d =>
      simp only [Delivery.step, Option.ite_none_right_eq_some, Option.some.injEq] at stepped
      obtain ⟨idle, rfl⟩ := stepped
      exact .take d idle
  | wake d =>
      simp only [Delivery.step] at stepped
      split at stepped <;> cases stepped
      rename_i waker rest holding
      exact .wake d waker rest holding

theorem AllAttended.step {s s' : Delivery} {i : DeliveryStep} (attended : s.AllAttended)
    (stepped : Delivery.step s i = some s') : s'.AllAttended := by
  cases step_cases stepped with
  | listen l =>
      apply attended.setListener rfl rfl (fun _ member => member)
      rintro now ⟨⟩ waker ⟨⟩
  | drop l =>
      apply attended.setListener rfl rfl (fun _ member => member)
      rintro now ⟨⟩
  | received l waker woken =>
      apply attended.setListener rfl rfl (fun _ member => member)
      rintro now ⟨⟩ other ⟨⟩
  | still l waker listener found =>
      apply attended.setListener rfl rfl (fun _ member => member)
      rintro now ⟨⟩ other pending
      exact attended l listener found other pending
  | register l waker listener found =>
      refine attended.setListener rfl rfl (fun _ member => mem_registerWaker.mpr (Or.inr member)) ?_
      rintro now ⟨⟩ other ⟨⟩
      exact Or.inl (mem_registerWaker.mpr (Or.inl rfl))
  | increment d idle =>
      refine attended.setDispatcher rfl rfl fun waker place => ?_
      rcases place with listed | held
      · exact Or.inl listed
      · rw [idle] at held
        cases held
  | take d idle =>
      refine attended.setDispatcher rfl rfl fun waker place => ?_
      rcases place with listed | held
      · exact Or.inr listed
      · rw [idle] at held
        cases held
  | wake d woken rest holding =>
      intro l listener found waker pending
      obtain ⟨before, present, rfl⟩ := Option.map_eq_some_iff.mp found
      by_cases same : before.latest = .pending woken
      · exact Or.inr (Or.inr (by rw [markWoken, if_pos same]))
      · rw [markWoken, if_neg same] at pending ⊢
        have different : waker ≠ woken := fun named => same (named ▸ pending)
        rcases attended l before present waker pending with listed | ⟨e, held⟩ | already
        · exact Or.inl listed
        · refine Or.inr (Or.inl ⟨e, ?_⟩)
          show waker ∈ ((s.setDispatcher d ⟨false, rest⟩).dispatchers e).holds
          rw [setDispatcher_dispatchers]
          split
          · rename_i here
            rw [here, holding] at held
            exact (List.mem_cons.mp held).resolve_left different
          · exact held
        · exact Or.inr (Or.inr already)

theorem new_allAttended : new.AllAttended := by
  rintro l listener ⟨⟩

end Delivery

/-- A listener that waits, and a signal delivered to it. -/
def Delivery.oneSignal : List DeliveryStep :=
  [.listen 0, .load 0 ⟨7⟩, .register 0, .increment 0, .take 0, .wake 0]

namespace Delivery

/-- A poll that registers after the counter has moved does so before a dispatch under way
takes the list. -/
def Unraced (s : Delivery) : DeliveryStep → Prop
  | .register l => ∀ listener, s.listeners l = some listener →
      s.counter = listener.lastSeen ∨ ∃ d, (s.dispatchers d).incremented = true
  | _ => True

/-- A listener that waits for a counter that has moved has been woken, or a dispatch is
under way that will wake it. -/
def Informed (s : Delivery) (listener : Listener) : Prop :=
  ∀ waker, listener.latest = .pending waker → s.counter ≠ listener.lastSeen →
    listener.woken = true ∨
      ∃ d, (s.dispatchers d).incremented = true ∨ waker ∈ (s.dispatchers d).holds

def AllInformed (s : Delivery) : Prop := ∀ l listener, s.listeners l = some listener → s.Informed listener

theorem AllInformed.setListener {s s' : Delivery} {l : Nat} {listener : Option Listener}
    (informed : s.AllInformed) (listeners : s'.listeners = (s.setListener l listener).listeners)
    (dispatchers : s'.dispatchers = s.dispatchers) (counter : s'.counter = s.counter)
    (changed : ∀ now, listener = some now → s.Informed now) : s'.AllInformed := by
  intro k other found
  rw [listeners, setListener_listeners] at found
  have same : s.Informed other := by
    split at found
    · exact changed other found
    · exact informed k other found
  intro waker pending moved
  rw [dispatchers]
  exact same waker pending (counter ▸ moved)

theorem AllInformed.step {s s' : Delivery} {i : DeliveryStep} (attended : s.AllAttended)
    (informed : s.AllInformed) (unraced : s.Unraced i) (stepped : Delivery.step s i = some s') :
    s'.AllInformed := by
  cases step_cases stepped with
  | listen l =>
      apply informed.setListener rfl rfl rfl
      rintro now ⟨⟩ waker ⟨⟩
  | drop l =>
      apply informed.setListener rfl rfl rfl
      rintro now ⟨⟩
  | received l waker woken =>
      apply informed.setListener rfl rfl rfl
      rintro now ⟨⟩ other ⟨⟩
  | still l waker listener found =>
      apply informed.setListener rfl rfl rfl
      rintro now ⟨⟩ other pending moved
      exact informed l listener found other pending moved
  | register l waker listener found =>
      apply informed.setListener rfl rfl rfl
      rintro now ⟨⟩ other ⟨⟩ moved
      rcases unraced listener found with still | ⟨d, incremented⟩
      · exact absurd still moved
      · exact Or.inr ⟨d, Or.inl incremented⟩
  | increment d idle =>
      intro l listener _ waker _ _
      exact Or.inr ⟨d, Or.inl (by simp [Delivery.setDispatcher])⟩
  | take d idle =>
      intro l listener found waker pending _
      rcases attended l listener found waker pending with listed | ⟨e, held⟩ | woken
      · exact Or.inr ⟨d, Or.inr (by simpa [Delivery.setDispatcher] using listed)⟩
      · have other : e ≠ d := by
          rintro rfl
          rw [idle] at held
          cases held
        exact Or.inr ⟨e, Or.inr (by simpa [Delivery.setDispatcher, other] using held)⟩
      · exact Or.inl woken
  | wake d woken rest holding =>
      intro l listener found waker pending moved
      obtain ⟨before, present, rfl⟩ := Option.map_eq_some_iff.mp found
      by_cases same : before.latest = .pending woken
      · exact Or.inl (by rw [markWoken, if_pos same])
      · rw [markWoken, if_neg same] at pending moved ⊢
        have different : waker ≠ woken := fun named => same (named ▸ pending)
        rcases informed l before present waker pending moved with already | ⟨e, under⟩
        · exact Or.inl already
        · refine Or.inr ⟨e, ?_⟩
          show ((s.setDispatcher d ⟨false, rest⟩).dispatchers e).incremented = true ∨
            waker ∈ ((s.setDispatcher d ⟨false, rest⟩).dispatchers e).holds
          rw [setDispatcher_dispatchers]
          split
          · rename_i here
            rw [here, holding] at under
            simpa [different] using under
          · exact under

end Delivery

/-- **No signal is missed unless a poll is raced**: in every run in which no poll registers
its waker after a dispatch has moved the counter and taken the list, every listener that
waits for a counter that has moved has been woken or is about to be. -/
theorem signal_wakes_unless_raced {steps : List DeliveryStep}
    (unraced : deliveryMachine.AllSteps Delivery.Unraced .new steps) :
    deliveryMachine.Throughout Delivery.AllInformed .new steps := by
  refine Machine.throughout_of_allSteps (I := fun s => s.AllAttended ∧ s.AllInformed)
    (fun _ _ _ before unraced stepped => ?_) (fun _ both => both.2) ?_ unraced
  · exact ⟨before.1.step stepped, before.2.step before.1 unraced stepped⟩
  · exact ⟨Delivery.new_allAttended, by rintro l listener ⟨⟩⟩

-- the dispatch falls between the two steps of a poll: the counter has moved, the waker is in
-- the list, and nobody is there to wake it
example : ∃ s, deliveryMachine.exec .new
    [.listen 0, .load 0 ⟨7⟩, .increment 0, .take 0, .register 0] = some s ∧ s.counter = 1 ∧
      s.listeners 0 = some ⟨0, none, .pending ⟨7⟩, false⟩ ∧ s.wakers = [⟨7⟩] ∧
      s.dispatchers 0 = ⟨false, []⟩ := ⟨_, rfl, rfl, rfl, rfl, rfl⟩

/-! ## Handlers and listeners -/

namespace Installation

variable {valid : Int → Bool} {original : Int → Action}

/-- What waits to be restored is the original disposition of a number without an entry;
an entry remembers that disposition and counts its listeners. -/
structure Good (original : Int → Action) (s : Installation) : Prop where
  waiting : ∀ signum prevAction, (signum, prevAction) ∈ s.restoring →
    prevAction = original signum ∧ s.registry signum = none
  entry : ∀ signum entry, s.registry signum = some entry →
    s.disposition signum = .signalHandler ∧ entry.prevAction = original signum ∧
      s.live signum = entry.refs ∧ 0 < entry.refs
  vacant : ∀ signum, s.registry signum = none →
    s.live signum = 0 ∧ (s.Settled signum → s.disposition signum = original signum)

theorem Good.follows {s : Installation} (good : s.Good original) : s.Follows original := by
  refine ⟨fun signum entry _ found => (good.entry signum entry found).1,
    fun signum settled vacant => (good.vacant signum vacant).2 settled, fun signum => ?_⟩
  cases found : s.registry signum with
  | none => exact (good.vacant signum found).1
  | some entry => exact (good.entry signum entry found).2.2.1

theorem new_good (original : Int → Action) : (new original).Good original :=
  ⟨fun _ _ member => (by cases member), fun _ _ found => (by cases found), fun _ _ => ⟨rfl, fun _ => rfl⟩⟩

/-- The two states are the same for a number. -/
structure SameFor (s t : Installation) (k : Int) : Prop where
  registry : t.registry k = s.registry k
  disposition : t.disposition k = s.disposition k
  live : t.live k = s.live k
  restoring : ∀ action, (k, action) ∈ t.restoring ↔ (k, action) ∈ s.restoring

/-- A step that concerns one number: what has to be shown is about that number. -/
theorem Good.changed {s t : Installation} (good : s.Good original) (signum : Int)
    (others : ∀ k, k ≠ signum → s.SameFor t k)
    (waiting : ∀ action, (signum, action) ∈ t.restoring → action = original signum ∧ t.registry signum = none)
    (entry : ∀ entry, t.registry signum = some entry → t.disposition signum = .signalHandler ∧
      entry.prevAction = original signum ∧ t.live signum = entry.refs ∧ 0 < entry.refs)
    (vacant : t.registry signum = none →
      t.live signum = 0 ∧ (t.Settled signum → t.disposition signum = original signum)) : t.Good original := by
  constructor
  · intro k action member
    rcases eq_or_ne k signum with rfl | different
    · exact waiting action member
    · have same := others k different
      rw [same.registry]
      exact good.waiting k action ((same.restoring action).mp member)
  · intro k found present
    rcases eq_or_ne k signum with rfl | different
    · exact entry found present
    · have same := others k different
      rw [same.disposition, same.live]
      exact good.entry k found (same.registry ▸ present)
  · intro k none_
    rcases eq_or_ne k signum with rfl | different
    · exact vacant none_
    · have same := others k different
      obtain ⟨live, restored⟩ := good.vacant k (same.registry ▸ none_)
      rw [same.disposition, same.live]
      exact ⟨live, fun settled => restored fun action member =>
        settled action ((same.restoring action).mpr member)⟩

theorem Good.register {s : Installation} {signum : Int} (good : s.Good original)
    (unhurried : s.Unhurried (.register signum)) : (s.registerSignal valid signum).Good original := by
  unfold registerSignal
  split
  · rename_i entry found
    obtain ⟨installed, prev, refs, -⟩ := good.entry signum entry found
    apply good.changed signum
    · intro k different
      constructor <;> simp [Function.update_of_ne different]
    · intro action member
      cases (good.waiting signum action member).2.symm.trans found
    · intro counted present
      simp only [Function.update_self, Option.some.injEq] at present ⊢
      subst present
      exact ⟨installed, prev, congrArg (· + 1) refs, Nat.succ_pos _⟩
    · intro none_
      simp at none_
  · rename_i none_
    have settled := unhurried none_
    obtain ⟨live, restored⟩ := good.vacant signum none_
    split
    · apply good.changed signum
      · intro k different
        constructor <;> simp [Function.update_of_ne different]
      · exact fun action member => absurd member (settled action)
      · intro fresh present
        simp only [Function.update_self, Option.some.injEq] at present ⊢
        subst present
        exact ⟨trivial, restored settled, congrArg (· + 1) live, Nat.one_pos⟩
      · intro gone
        simp at gone
    · exact good

theorem Good.unregister {s : Installation} {signum : Int} (good : s.Good original) (alive : 0 < s.live signum) :
    (s.unregisterSignal signum).Good original := by
  unfold unregisterSignal
  simp only
  split
  · rename_i none_
    have := (good.vacant signum none_).1
    omega
  · rename_i entry found
    obtain ⟨installed, prev, refs, -⟩ := good.entry signum entry found
    have unrestored : ∀ action, (signum, action) ∉ s.restoring := by
      intro action member
      cases (good.waiting signum action member).2.symm.trans found
    split
    · rename_i several
      apply good.changed signum
      · intro k different
        constructor <;> simp [Function.update_of_ne different]
      · exact fun action member => absurd member (unrestored action)
      · intro counted present
        simp only [Function.update_self, Option.some.injEq] at present ⊢
        subst present
        exact ⟨installed, prev, congrArg (· - 1) refs, Nat.sub_pos_of_lt several⟩
      · intro gone
        simp at gone
    · -- the last listener: the entry goes, its disposition waits
      apply good.changed signum
      · intro k different
        constructor <;> simp [different]
      · intro action member
        rcases List.mem_cons.mp member with same | older
        · cases same
          exact ⟨prev, Function.update_self ..⟩
        · exact absurd older (unrestored action)
      · intro gone present
        simp at present
      · intro _
        refine ⟨?_, fun settled => absurd List.mem_cons_self (settled entry.prevAction)⟩
        simp only [Function.update_self]
        omega

theorem Good.restore {s s' : Installation} {signum : Int} {prevAction : Action} (good : s.Good original)
    (stepped : s.step valid (.restore signum prevAction) = some s') : s'.Good original := by
  simp only [step, Option.ite_none_right_eq_some, Option.some.injEq] at stepped
  obtain ⟨member, rfl⟩ := stepped
  obtain ⟨isOriginal, vacant⟩ := good.waiting signum prevAction member
  apply good.changed signum
  · intro k different
    refine ⟨rfl, Function.update_of_ne different .., rfl, fun action => ?_⟩
    exact List.mem_erase_of_ne fun same => different (congrArg Prod.fst same)
  · exact fun action other => good.waiting signum action (List.mem_of_mem_erase other)
  · intro entry present
    cases vacant.symm.trans present
  · intro none_
    refine ⟨(good.vacant signum none_).1, fun _ => ?_⟩
    simp only [Function.update_self, isOriginal]

theorem Good.step {s s' : Installation} {i : InstallationStep} (good : s.Good original)
    (unhurried : s.Unhurried i) (stepped : Installation.step valid s i = some s') : s'.Good original := by
  cases i with
  | register signum =>
      cases stepped
      exact good.register unhurried
  | unregister signum =>
      simp only [Installation.step, Option.ite_none_right_eq_some, Option.some.injEq] at stepped
      obtain ⟨alive, rfl⟩ := stepped
      exact good.unregister alive
  | restore signum prevAction => exact good.restore stepped

end Installation

/-- **The handler follows the listeners**, whatever the dispositions of the process were: in
every interleaving in which no handler is installed while the old disposition of its number
waits to be restored, every state in which that number is settled has `signal_handler`
installed if there is an entry and the original disposition if there is none, and the count
of every entry is the number of its listeners. -/
theorem handler_follows_listeners (valid : Int → Bool) (original : Int → Action)
    {steps : List InstallationStep}
    (unhurried : (installationMachine valid original).AllSteps Installation.Unhurried (.new original) steps) :
    (installationMachine valid original).Throughout (Installation.Follows original) (.new original) steps :=
  Machine.throughout_of_allSteps (I := Installation.Good original)
    (fun _ _ _ good unhurried stepped => Installation.Good.step good unhurried stepped)
    (fun _ good => Installation.Good.follows good) (Installation.new_good original) unhurried

/-- Two listeners of one number come and go, and the handler with them. -/
theorem handler_follows_two_listeners :
    ∃ s, (installationMachine (fun _ => true) fun _ => .other 0).exec (.new fun _ => .other 0)
        [.register 2, .register 2, .unregister 2, .unregister 2, .restore 2 (.other 0)] = some s ∧
      (installationMachine (fun _ => true) fun _ => .other 0).Throughout
        (Installation.Follows fun _ => .other 0) (.new fun _ => .other 0)
        [.register 2, .register 2, .unregister 2, .unregister 2, .restore 2 (.other 0)] := by
  refine ⟨_, rfl, handler_follows_listeners _ _ ⟨fun _ _ => by simp [Installation.new], ?_⟩⟩
  rintro _ ⟨⟩
  refine ⟨fun vacant => ?_, ?_⟩
  · simp [Installation.registerSignal, Installation.new] at vacant
  · rintro _ ⟨⟩
    refine ⟨trivial, ?_⟩
    rintro _ -
    refine ⟨trivial, ?_⟩
    rintro _ -
    exact ⟨trivial, fun _ _ => trivial⟩

/-- The last listener of signal 2 goes and a new one comes before the old disposition has
been restored: in the end there is an entry, nothing is under way, and the handler is gone. -/
theorem late_restore_removes_handler :
    ∃ s, (installationMachine (fun _ => true) fun _ => .other 0).exec (.new fun _ => .other 0)
        [.register 2, .unregister 2, .register 2, .restore 2 (.other 0)] = some s ∧
      s.restoring = [] ∧ s.registry 2 = some ⟨1, .signalHandler⟩ ∧ s.disposition 2 = .other 0 ∧
      ¬ s.Follows fun _ => .other 0 := by
  refine ⟨_, rfl, rfl, rfl, rfl, fun follows => ?_⟩
  have installed := follows.installed 2 ⟨1, .signalHandler⟩ (fun _ waits => by cases waits) rfl
  cases installed

end Vibeio.Signal
