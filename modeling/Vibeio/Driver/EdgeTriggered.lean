/-
# Driver.EdgeTriggered -- the mio driver and a poll set that reports a change once

The poll set of the system is edge-triggered: an event is due for a source when it becomes
ready in a way it is registered for, and when it is registered, again or for the first time,
while it is ready.  Once reported it is not due any more, however ready the source remains.

The driver asks the system only when the interest it has noted differs from the one it is
given, and forgets the noted interest with every event.  `Armed` is why that is enough: where
an interest is noted, the system watches it, and an event is due if the source is ready.

* `PollSet`: the driver with the system's side of it.
* `Armed.call`, `Armed.source`, `Armed.report`: every step keeps it.
* `handleEvents_keeps`: a waiter stays until an event wakes it.
-/
import Mathlib.Logic.Function.Basic
import Vibeio.Driver.PollWaiters

namespace Vibeio.Driver

open Vibeio.Theory

set_option autoImplicit false

structure PollSet where
  driver : MioDriver
  /-- A descriptor can be read from or written to without blocking; an error makes it ready
  in both directions. -/
  ready : Int → Direction → Bool
  /-- An event is due for a token. -/
  due : Nat → Bool
  /-- Whom the latest flush or wait has found waiting. -/
  collected : List Waker

/-- What futures ask of the driver, with the answer of the system. -/
inductive PollCall where
  | register (fd : Int) (interest : Interest) (key : Nat) (registered : Except IoError Unit)
  | reregister (token : Nat) (interest : Interest) (registered : Except IoError Unit)
  | deregister (token : Nat) (deregistered : Except IoError Unit)
  | submitPoll (token : Nat) (waker : Waker) (interest : Interest) (registered : Except IoError Unit)

/-- What happens to a source by itself: more to read, room to write, or neither any more. -/
inductive SourceStep where
  | rises (fd : Int) (dir : Direction)
  | falls (fd : Int) (dir : Direction)

/-- What one call of `Poll::poll` returns, and the events it has filled in. -/
structure Polled where
  result : Except IoError Unit
  events : List Event

namespace PollSet

def readyFor (s : PollSet) (fd : Int) (interest : Interest) : Bool :=
  (interest.isReadable && s.ready fd .read) || (interest.isWritable && s.ready fd .write)

/-- The source of a token, registered for a direction. -/
def registeredFor (s : PollSet) (token : Nat) (fd : Int) (dir : Direction) : Bool :=
  match s.driver.registrations.get token, s.driver.registry.get token with
  | some r, some interest => decide (r.fd = fd) && decide (dir.WatchedBy interest)
  | _, _ => false

/-- The system has registered the source of a token, and looks at it. -/
def watch (s : PollSet) (token : Nat) (interest : Interest) : PollSet :=
  let up := match s.driver.registrations.get token with
    | some r => s.readyFor r.fd interest
    | none => false
  { s with due := Function.update s.due token (s.due token || up) }

/-- Whether `submit_poll` asks the system. -/
def asks (s : PollSet) (token : Nat) (interest : Interest) : Bool :=
  match s.driver.registrations.get token with
  | some r => decide (r.interest ≠ some interest)
  | none => false

/-- The slab hands out a vacant entry below the token of the interruptor. -/
def call (s : PollSet) : PollCall → Option PollSet
  | .register fd interest key registered =>
      if (s.driver.registrations.get key).isNone ∧ key < USIZE_MAX then
        let after := { s with driver := (s.driver.registerHandle fd interest key registered).2 }
        some (if registered.toBool then after.watch key interest else after)
      else none
  | .reregister token interest registered =>
      let after := { s with driver := (s.driver.reregisterHandle token interest registered).2 }
      some (if registered.toBool then after.watch token interest else after)
  | .deregister token deregistered =>
      let after := { s with driver := (s.driver.deregisterHandle token deregistered).2 }
      some (if deregistered.toBool then { after with due := Function.update s.due token false } else after)
  | .submitPoll token waker interest registered =>
      let after := { s with driver := (s.driver.submitPoll token waker interest registered).2 }
      some (if s.asks token interest && registered.toBool then after.watch token interest else after)

def source (s : PollSet) : SourceStep → PollSet
  | .rises fd dir =>
      { s with
        ready := Function.update s.ready fd (Function.update (s.ready fd) dir true)
        due := fun token => s.due token || s.registeredFor token fd dir }
  | .falls fd dir => { s with ready := Function.update s.ready fd (Function.update (s.ready fd) dir false) }

/-- The system reports only what is due. -/
def Reports (s : PollSet) (events : List Event) : Prop :=
  ∀ event ∈ events, event.token = USIZE_MAX ∨ s.due event.token = true

instance (s : PollSet) (events : List Event) : Decidable (s.Reports events) := by
  unfold Reports
  infer_instance

def reported (events : List Event) (token : Nat) : Bool := events.any fun event => event.token == token

/-- `flush` and `wait`, which differ in how long they let the system block. -/
def serve (s : PollSet) (polled : Polled) : Option PollSet :=
  if s.Reports polled.events then
    (s.driver.waitTimeout polled.result polled.events).map fun served =>
      { s with
        driver := served.2
        due := fun token => s.due token && !reported polled.events token
        collected := served.1 }
  else none

end PollSet

/-! ## What every step keeps -/

/-- Where the driver has noted an interest, the system watches it, and an event is due if the
source is ready. -/
structure Tended (s : PollSet) (token : Nat) (r : MioRegistration) : Prop where
  small : token < USIZE_MAX
  watched : ∀ interest, r.interest = some interest → s.driver.registry.get token = some interest
  due : ∀ interest, r.interest = some interest → s.readyFor r.fd interest = true → s.due token = true

def Armed (s : PollSet) : Prop := ∀ token r, s.driver.registrations.get token = some r → Tended s token r

/-- Nothing the token's entry depends on has changed. -/
theorem Tended.congr {s s' : PollSet} {token : Nat} {r : MioRegistration} (tended : Tended s token r)
    (registry : s'.driver.registry.get token = s.driver.registry.get token) (ready : s'.ready = s.ready)
    (due : s.due token = true → s'.due token = true) : Tended s' token r := by
  refine ⟨tended.small, fun interest noted => registry.trans (tended.watched interest noted),
    fun interest noted up => due (tended.due interest noted ?_)⟩
  unfold PollSet.readyFor at up ⊢
  rwa [ready] at up

namespace Armed

variable {s s' : PollSet}

/-- An entry whose source the system has just looked at. -/
theorem tended_watch {token : Nat} {interest : Interest} {r : MioRegistration} (small : token < USIZE_MAX)
    (found : s.driver.registrations.get token = some r) (noted : r.interest = some interest)
    (registry : s.driver.registry.get token = some interest) : Tended (s.watch token interest) token r := by
  refine ⟨small, fun other again => ?_, fun other again up => ?_⟩
  · cases noted.symm.trans again
    exact registry
  · cases noted.symm.trans again
    have up : s.readyFor r.fd interest = true := up
    simp only [PollSet.watch, Function.update_self, found, up, Bool.or_true]

theorem due_watch (token other : Nat) (interest : Interest) (due : s.due other = true) :
    (s.watch token interest).due other = true := by
  show Function.update s.due token _ other = true
  rcases eq_or_ne other token with rfl | different
  · rw [Function.update_self, due, Bool.true_or]
  · rw [Function.update_of_ne different]
    exact due

/-- A change that is confined to one token. -/
theorem confined (armed : Armed s) (token : Nat)
    (here : ∀ r, s'.driver.registrations.get token = some r → Tended s' token r) (ready : s'.ready = s.ready)
    (elsewhere : ∀ other, other ≠ token →
      s'.driver.registrations.get other = s.driver.registrations.get other ∧
        s'.driver.registry.get other = s.driver.registry.get other ∧ (s.due other = true → s'.due other = true)) :
    Armed s' := by
  intro other r found
  rcases eq_or_ne other token with rfl | different
  · exact here r found
  · obtain ⟨registrations, registry, due⟩ := elsewhere other different
    exact (armed other r (registrations.symm.trans found)).congr registry ready due

/-- The driver and the system note one interest for a token, and the system looks at its source. -/
theorem noted (armed : Armed s) {token : Nat} {interest : Interest} {r : MioRegistration}
    (small : token < USIZE_MAX) (wanted : r.interest = some interest) :
    Armed (({ s with driver := ⟨s.driver.registrations.insert token r,
      s.driver.registry.insert token interest⟩ } : PollSet).watch token interest) := by
  refine armed.confined token (fun r' found => ?_) rfl fun other different =>
    ⟨?_, ?_, fun due => due_watch token other interest due⟩
  · have same : some r = some r' := (Slab.get_insert_self _ _ _).symm.trans found
    cases same
    exact tended_watch small (Slab.get_insert_self _ _ _) wanted (Slab.get_insert_self _ _ _)
  · exact (Slab.get_insert _ _ _ _).trans (if_neg different)
  · exact (Slab.get_insert _ _ _ _).trans (if_neg different)

theorem register {fd : Int} {interest : Interest} {key : Nat} {registered : Except IoError Unit}
    (armed : Armed s) (called : s.call (.register fd interest key registered) = some s') : Armed s' := by
  simp only [PollSet.call, Option.ite_none_right_eq_some, Option.some.injEq] at called
  obtain ⟨⟨-, small⟩, rfl⟩ := called
  cases registered with
  | ok answer => exact armed.noted small rfl
  | error err =>
      refine armed.confined key (fun r found => ?_) rfl fun other different => ⟨?_, rfl, id⟩
      · have absent : none = some r := (Slab.get_remove_self _ _).symm.trans found
        cases absent
      · exact (Slab.get_remove _ _ _).trans ((if_neg different).trans
          ((Slab.get_insert _ _ _ _).trans (if_neg different)))

/-- The driver is told nothing new, whatever the system looks at. -/
theorem unchanged (armed : Armed s) (token : Nat) (interest : Interest) :
    Armed (s.watch token interest) :=
  fun other r found => (armed other r found).congr rfl rfl (due_watch token other interest)

theorem reregister {token : Nat} {interest : Interest} {registered : Except IoError Unit} (armed : Armed s)
    (called : s.call (.reregister token interest registered) = some s') : Armed s' := by
  simp only [PollSet.call, Option.some.injEq] at called
  subst called
  cases found : s.driver.registrations.get token with
  | none =>
      have same : (s.driver.reregisterHandle token interest registered).2 = s.driver := by
        simp only [MioDriver.reregisterHandle, found]
      rw [same]
      split
      · exact armed.unchanged token interest
      · exact armed
  | some r =>
      simp only [MioDriver.reregisterHandle, found]
      cases registered with
      | error err => exact armed
      | ok answer => exact armed.noted (armed token r found).small rfl

theorem deregister {token : Nat} {deregistered : Except IoError Unit} (armed : Armed s)
    (called : s.call (.deregister token deregistered) = some s') : Armed s' := by
  simp only [PollSet.call, Option.some.injEq] at called
  subst called
  cases deregistered with
  | error err =>
      have same : (s.driver.deregisterHandle token (.error err)).2 = s.driver := by
        unfold MioDriver.deregisterHandle
        split <;> rfl
      rw [same]
      exact armed
  | ok answer =>
      have due : ∀ other, other ≠ token → s.due other = true → Function.update s.due token false other = true := by
        intro other different due
        rw [Function.update_of_ne different]
        exact due
      cases found : s.driver.registrations.get token with
      | none =>
          simp only [MioDriver.deregisterHandle, found]
          refine armed.confined token (fun r absent => ?_) rfl fun other different => ⟨rfl, rfl, due other different⟩
          cases found.symm.trans absent
      | some r =>
          simp only [MioDriver.deregisterHandle, found]
          refine armed.confined token (fun r absent => ?_) rfl fun other different => ⟨?_, ?_, due other different⟩
          · cases (Slab.get_remove_self _ _).symm.trans absent
          · exact (Slab.get_remove _ _ _).trans (if_neg different)
          · exact (Slab.get_remove _ _ _).trans (if_neg different)

theorem submitPoll {token : Nat} {waker : Waker} {interest : Interest} {registered : Except IoError Unit}
    (armed : Armed s) (called : s.call (.submitPoll token waker interest registered) = some s') : Armed s' := by
  simp only [PollSet.call, Option.some.injEq] at called
  subst called
  cases found : s.driver.registrations.get token with
  | none =>
      simp only [PollSet.asks, MioDriver.submitPoll, found]
      exact armed
  | some r =>
      by_cases again : r.interest = some interest
      · -- nobody asks the system, and what is due for this interest stays due
        simp only [PollSet.asks, MioDriver.submitPoll, found, again, ne_eq, not_true_eq_false, decide_false,
          Bool.false_and, Bool.false_eq_true, if_false]
        have tended := armed token r found
        refine armed.confined token (fun r' found' => ?_) rfl fun other different => ⟨?_, rfl, id⟩
        · have same : _ = some r' := (Slab.get_insert_self _ _ _).symm.trans found'
          cases same
          exact ⟨tended.small, fun other noted => tended.watched other (again.trans noted),
            fun other noted => tended.due other (again.trans noted)⟩
        · exact (Slab.get_insert _ _ _ _).trans (if_neg different)
      · simp only [PollSet.asks, MioDriver.submitPoll, found, ne_eq, again, not_false_eq_true, if_true]
        cases registered with
        | error err => exact armed
        | ok answer => exact armed.noted (armed token r found).small rfl

theorem call {c : PollCall} (armed : Armed s) (called : s.call c = some s') : Armed s' := by
  cases c with
  | register => exact armed.register called
  | reregister => exact armed.reregister called
  | deregister => exact armed.deregister called
  | submitPoll => exact armed.submitPoll called

/-- What is ready after a change was so before, or it is what has changed. -/
theorem ready_source {change : SourceStep} {fd : Int} {dir : Direction}
    (up : (s.source change).ready fd dir = true) : s.ready fd dir = true ∨ change = .rises fd dir := by
  cases change with
  | falls other e =>
      simp only [PollSet.source, Function.update_apply] at up
      split at up
      · rename_i same
        rw [Function.update_apply] at up
        split at up
        · cases up
        · exact .inl (same ▸ up)
      · exact .inl up
  | rises other e =>
      simp only [PollSet.source, Function.update_apply] at up
      split at up
      · rename_i same
        rw [Function.update_apply] at up
        split at up
        · rename_i equal
          rw [same, equal]
          exact .inr rfl
        · exact .inl (same ▸ up)
      · exact .inl up

/-- A source is due once it becomes ready for what it is registered for. -/
theorem due_source {change : SourceStep} {token : Nat} {r : MioRegistration} {interest : Interest} {dir : Direction}
    (known : s.driver.registrations.get token = some r) (watched : s.driver.registry.get token = some interest)
    (rises : change = .rises r.fd dir) (watches : dir.WatchedBy interest) :
    (s.source change).due token = true := by
  rw [rises]
  show (s.due token || s.registeredFor token r.fd dir) = true
  have here : s.registeredFor token r.fd dir = true := by
    simp only [PollSet.registeredFor, known, watched, watches, decide_true, Bool.and_self]
  rw [here, Bool.or_true]

theorem source (armed : Armed s) (change : SourceStep) : Armed (s.source change) := by
  intro token r found
  have known : s.driver.registrations.get token = some r := by
    cases change <;> exact found
  have tended := armed token r known
  have registry : (s.source change).driver.registry.get token = s.driver.registry.get token := by
    cases change <;> rfl
  have stays : s.due token = true → (s.source change).due token = true := by
    intro due
    cases change with
    | falls => exact due
    | rises fd dir =>
        show (s.due token || _) = true
        rw [due, Bool.true_or]
  refine ⟨tended.small, fun interest noted => registry.trans (tended.watched interest noted),
    fun interest noted up => ?_⟩
  have watched := tended.watched interest noted
  -- a direction that is ready was ready before, or has just become so
  have either : ∀ dir : Direction, dir.WatchedBy interest → (s.source change).ready r.fd dir = true →
      s.ready r.fd dir = true ∨ (s.source change).due token = true := by
    intro dir watches up
    exact (ready_source up).imp_right fun rises => due_source known watched rises watches
  simp only [PollSet.readyFor, Bool.or_eq_true, Bool.and_eq_true] at up
  have due := tended.due interest noted
  simp only [PollSet.readyFor, Bool.or_eq_true, Bool.and_eq_true] at due
  rcases up with ⟨wants, up⟩ | ⟨wants, up⟩
  · have watches : Direction.read.WatchedBy interest := by cases interest <;> first | decide | cases wants
    rcases either .read watches up with before | now
    · exact stays (due (.inl ⟨wants, before⟩))
    · exact now
  · have watches : Direction.write.WatchedBy interest := by cases interest <;> first | decide | cases wants
    rcases either .write watches up with before | now
    · exact stays (due (.inr ⟨wants, before⟩))
    · exact now

end Armed

/-! ## Events -/

namespace MioDriver

theorem handleEvent_eq {d : MioDriver} {event : Event} (plain : event.token ≠ USIZE_MAX) {r : MioRegistration}
    (found : d.registrations.get event.token = some r) :
    d.handleEvent event = (r.waiter, { d with
      registrations := d.registrations.insert event.token { r with interest := none, waiter := none } }) := by
  simp only [handleEvent, if_neg plain, found]

/-- What an event leaves under a token: what was there, unless it is the event's own. -/
theorem handleEvent_entry {d : MioDriver} {event : Event} {token : Nat} {after : MioRegistration}
    (found : (d.handleEvent event).2.registrations.get token = some after) :
    ∃ r, d.registrations.get token = some r ∧ (token < USIZE_MAX →
      (after = r ∧ event.token ≠ token) ∨ after.interest = none) := by
  by_cases interrupt : event.token = USIZE_MAX
  · rw [handleEvent, if_pos interrupt] at found
    exact ⟨after, found, fun small => .inl ⟨rfl, by omega⟩⟩
  · cases known : d.registrations.get event.token with
    | none =>
        simp only [handleEvent, if_neg interrupt, known] at found
        refine ⟨after, found, fun _ => .inl ⟨rfl, ?_⟩⟩
        rintro rfl
        cases known.symm.trans found
    | some r =>
        rw [handleEvent_eq interrupt known] at found
        rcases eq_or_ne token event.token with rfl | different
        · cases (Slab.get_insert_self _ _ _).symm.trans found
          exact ⟨r, known, fun _ => .inr rfl⟩
        · have before := ((Slab.get_insert _ _ _ _).trans (if_neg different)).symm.trans found
          exact ⟨after, before, fun _ => .inl ⟨rfl, different.symm⟩⟩

theorem handleEvent_registry (d : MioDriver) (event : Event) : (d.handleEvent event).2.registry = d.registry := by
  unfold handleEvent
  split
  · rfl
  · split <;> rfl

theorem handleEvents_registry (d : MioDriver) (events : List Event) :
    (d.handleEvents events).2.registry = d.registry := by
  induction events generalizing d with
  | nil => rfl
  | cons event rest ih => exact (ih _).trans (d.handleEvent_registry event)

theorem handleEvents_entry {events : List Event} {d : MioDriver} {token : Nat} {after : MioRegistration}
    (found : (d.handleEvents events).2.registrations.get token = some after) :
    ∃ r, d.registrations.get token = some r ∧ (token < USIZE_MAX →
      (after = r ∧ PollSet.reported events token = false) ∨ after.interest = none) := by
  induction events generalizing d with
  | nil => exact ⟨after, found, fun _ => .inl ⟨rfl, rfl⟩⟩
  | cons event rest ih =>
      obtain ⟨middle, between, last⟩ := ih found
      obtain ⟨r, before, first⟩ := handleEvent_entry between
      refine ⟨r, before, fun small => ?_⟩
      rcases last small with ⟨rfl, silent⟩ | forgotten
      · refine (first small).imp_left fun ⟨same, other⟩ => ⟨same, ?_⟩
        simp only [PollSet.reported, List.any_cons, Bool.or_eq_false_iff, beq_eq_false_iff_ne]
        exact ⟨other, silent⟩
      · exact .inr forgotten

/-- **A waiter stays until an event wakes it.** -/
theorem handleEvents_keeps {events : List Event} {d : MioDriver} {token : Nat} {r : MioRegistration} {waker : Waker}
    (stored : d.registrations.get token = some r) (waits : r.waiter = some waker) :
    (d.handleEvents events).2.registrations.get token = some r ∨ waker ∈ (d.handleEvents events).1 := by
  induction events generalizing d with
  | nil => exact .inl stored
  | cons event rest ih =>
      have kept : (d.handleEvent event).2.registrations.get token = some r ∨ (d.handleEvent event).1 = some waker := by
        by_cases interrupt : event.token = USIZE_MAX
        · rw [handleEvent, if_pos interrupt]
          exact .inl stored
        · cases known : d.registrations.get event.token with
          | none =>
              simp only [handleEvent, if_neg interrupt, known]
              exact .inl stored
          | some other =>
              rw [handleEvent_eq interrupt known]
              rcases eq_or_ne token event.token with rfl | different
              · cases known.symm.trans stored
                exact .inr waits
              · exact .inl ((Slab.get_insert _ _ _ _).trans ((if_neg different).trans stored))
      rcases kept with still | woken
      · exact (ih still).imp_right (List.mem_append_right _)
      · refine .inr (List.mem_append_left _ ?_)
        show waker ∈ (d.handleEvent event).1.toList
        rw [woken]
        exact List.mem_singleton_self _

/-- `flush` and `wait` handle the events they are given. -/
theorem waitTimeout_eq {d d' : MioDriver} {result : Except IoError Unit} {events : List Event} {wakers : List Waker}
    (waited : d.waitTimeout result events = some (wakers, d')) :
    wakers = (d.handleEvents events).1 ∧ d' = (d.handleEvents events).2 := by
  unfold waitTimeout at waited
  split at waited
  · exact Prod.mk.inj (Option.some.inj waited).symm
  · split at waited
    · exact Prod.mk.inj (Option.some.inj waited).symm
    · cases waited

end MioDriver

/-- **Handling events keeps the poll set armed**: with the event goes the noted interest. -/
theorem Armed.serve {s s' : PollSet} {polled : Polled} (armed : Armed s) (served : s.serve polled = some s') :
    Armed s' := by
  simp only [PollSet.serve, Option.ite_none_right_eq_some, Option.map_eq_some_iff] at served
  obtain ⟨-, ⟨wakers, d⟩, waited, rfl⟩ := served
  obtain ⟨rfl, rfl⟩ := MioDriver.waitTimeout_eq waited
  intro token after found
  obtain ⟨r, before, either⟩ := MioDriver.handleEvents_entry found
  have tended := armed token r before
  rcases either tended.small with ⟨rfl, silent⟩ | forgotten
  · refine tended.congr ?_ rfl fun due => ?_
    · exact congrArg (fun registry => registry.get token) (s.driver.handleEvents_registry polled.events)
    · show (s.due token && !PollSet.reported polled.events token) = true
      rw [due, silent]
      rfl
  · refine ⟨tended.small, fun interest noted => ?_, fun interest noted => ?_⟩
    · cases forgotten.symm.trans noted
    · cases forgotten.symm.trans noted

/-- A new driver, before anything is registered. -/
def PollSet.new : PollSet := ⟨.new, fun _ _ => false, fun _ => false, []⟩

end Vibeio.Driver
