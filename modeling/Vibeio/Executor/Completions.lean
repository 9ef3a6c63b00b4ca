/-
# Executor.Completions -- from a completion of the kernel to the task that waits for it

An operation that a future polls leaves its request with the system and its waker in a slot.
Later a flush or a wait of the loop reads the completion, puts the result into the slot,
collects the waker, and wakes it before the loop goes on.

The machine is the runtime over a completion driver with its operations: futures poll and drop
them wherever code of theirs runs, the system completes requests in any order at any time, and
other threads wake what they like.  The driver is any `ServedDriver`: io_uring's and IOCP's are.

* `operationsApi`: the driver with the operations of all futures.
* `waits_request`: what `Driver.Served` says of one operation, as a `Request`.
* `completion_reaches_its_task`: no completion is lost between the system and the poll of the
  task that takes it.
-/
import Vibeio.Driver.IocpWakes
import Vibeio.Driver.UringWakes
import Vibeio.Executor.Driven

namespace Vibeio.Executor

open Vibeio.Theory Vibeio.Driver
open Vibeio.Driver.ServedDriver (LetsBe)

set_option autoImplicit false

variable {D X E K : Type} {api : CompletionDriver D X E K}

/-! ## The driver with its operations -/

/-- The operations of all futures over one driver, and what the latest flush or wait has
collected. -/
structure Operations (D : Type) where
  clients : Clients D
  collected : List Waker

namespace Operations

def onDriver (s : Operations D) (d : D) : Operations D := { s with clients := { s.clients with driver := d } }

/-- A flush or a wait has handled everything. -/
def handled (s : Operations D) (result : List Waker × D) : Operations D :=
  { s.onDriver result.2 with collected := result.1 }

variable (served : ServedDriver api)

def call (s : Operations D) (c : ClientStep E K) : Option (Operations D) :=
  if served.isCall c then (s.clients.step api c).map fun clients => { s with clients := clients } else none

def kernel (s : Operations D) (k : served.Kernel) : Option (Operations D) :=
  (served.kernel s.clients.driver k).map s.onDriver

def flush (s : Operations D) (env : served.Env) : Option (Operations D) :=
  (served.flush s.clients.driver env).map s.handled

def wait (s : Operations D) (timeout : Option Nat) (env : served.Env) : Option (Operations D) :=
  (served.wait s.clients.driver timeout env).map s.handled

variable {served} {s s' : Operations D}

theorem call_cases {c : ClientStep E K} (called : s.call served c = some s') :
    served.isCall c = true ∧ s.clients.step api c = some s'.clients := by
  simp only [call, Option.ite_none_right_eq_some, Option.map_eq_some_iff] at called
  obtain ⟨isCall, clients, stepped, rfl⟩ := called
  exact ⟨isCall, stepped⟩

theorem kernel_cases {k : served.Kernel} (moved : s.kernel served k = some s') :
    ∃ d, served.kernel s.clients.driver k = some d ∧ s' = s.onDriver d := by
  obtain ⟨d, changed, rfl⟩ := Option.map_eq_some_iff.mp moved
  exact ⟨d, changed, rfl⟩

/-- What a flush, and a wait likewise, has done to the operations. -/
theorem flush_collects {env : served.Env} (kept : Clients.Kept api s.clients) (flushed : s.flush served env = some s') :
    s'.clients.ops = s.clients.ops ∧ Collects api s.clients s'.collected s'.clients.driver := by
  obtain ⟨⟨wakers, d⟩, drained, rfl⟩ := Option.map_eq_some_iff.mp flushed
  exact ⟨rfl, served.flush_spec s.clients env wakers d kept drained⟩

theorem wait_collects {timeout : Option Nat} {env : served.Env} (kept : Clients.Kept api s.clients)
    (waited : s.wait served timeout env = some s') :
    s'.clients.ops = s.clients.ops ∧ Collects api s.clients s'.collected s'.clients.driver := by
  obtain ⟨⟨wakers, d⟩, drained, rfl⟩ := Option.map_eq_some_iff.mp waited
  exact ⟨rfl, served.wait_spec s.clients timeout env wakers d kept drained⟩

end Operations

variable (served : ServedDriver api)

/-- A completion driver with its operations, as the runtime uses it. -/
def operationsApi : DriverApi where
  State := Operations D
  Call := ClientStep E K
  Kernel := served.Kernel
  Env := served.Env
  call := Operations.call served
  kernel := Operations.kernel served
  shouldFlush := fun s => served.shouldFlush s.clients.driver
  flush := Operations.flush served
  wait := Operations.wait served

/-- The runtime over a new driver, from its construction on. -/
def completionMachine (target : Waker → Target) :
    Machine (DrivenRuntime (operationsApi served)) (DrivenLabel (operationsApi served)) :=
  drivenMachine (D := operationsApi served) Operations.collected
    (fun s => Clients.Initial api s.clients ∧ s.collected = []) target

theorem kept_invariant :
    DriverInvariant (operationsApi served) (fun s => Clients.Initial api s.clients ∧ s.collected = [])
      fun s => Clients.Kept api s.clients where
  start _ begins := Clients.kept_initial begins.1
  call _ _ _ kept called := kept.step (Operations.call_cases called).2
  kernel s k s' kept moved := by
    obtain ⟨d, changed, rfl⟩ := Operations.kernel_cases moved
    obtain ⟨⟨l, stepped⟩, -⟩ := served.kernel_spec s.clients.driver k d changed
    exact kept.step (l := .driver l) (congrArg (Option.map _) stepped)
  flush s env s' kept flushed := by
    obtain ⟨⟨wakers, d⟩, drained, rfl⟩ := Option.map_eq_some_iff.mp flushed
    exact (served.flush_spec s.clients env wakers d kept drained).kept
  wait s timeout env s' kept waited := by
    obtain ⟨⟨wakers, d⟩, drained, rfl⟩ := Option.map_eq_some_iff.mp waited
    exact (served.wait_spec s.clients timeout env wakers d kept drained).kept

/-! ## One operation -/

/-- The waker of a waiting operation is with the driver while its request is under way. -/
theorem waits_request (op : Nat) (ticket : Ticket) (waker : Waker) :
    Request (operationsApi served) Operations.collected (fun s => Clients.Kept api s.clients)
      (fun s => s.clients.ops op = .waiting ticket waker) (fun s => ticket ∈ api.owed s.clients.driver)
      (LetsBe op) waker where
  call s c s' kept waits lets called := by
    obtain ⟨call, stepped⟩ := Operations.call_cases called
    obtain ⟨same, keeps⟩ := served.clientStep_keeps kept call lets stepped
    exact ⟨same.trans waits, keeps ticket⟩
  kernel s k s' kept waits moved := by
    obtain ⟨d, changed, rfl⟩ := Operations.kernel_cases moved
    obtain ⟨-, same⟩ := served.kernel_spec s.clients.driver k d changed
    exact ⟨waits, fun owes => same.symm ▸ owes⟩
  flush s env s' kept waits flushed := by
    obtain ⟨same, collects⟩ := Operations.flush_collects kept flushed
    exact ⟨(congrFun same op).trans waits, collects.collects op ticket waker waits⟩
  wait s timeout env s' kept waits waited := by
    obtain ⟨same, collects⟩ := Operations.wait_collects kept waited
    exact ⟨(congrFun same op).trans waits, collects.collects op ticket waker waits⟩

variable {served} {op : Nat} {ticket : Ticket} {waker : Waker}

/-- An operation whose request is answered finds the result at its next poll. -/
theorem ready_of_answered {s : Clients D} (kept : Clients.Kept api s) (waits : s.ops op = .waiting ticket waker)
    (answered : ticket ∉ api.owed s.driver) :
    ∃ result, (ticket, result) ∈ api.finished s.driver ∧ ∀ waker' env,
      (s.pollCompletion api op waker' env).1 = .ready (opOutput result) := by
  obtain ⟨c, found, -, ⟨-, owes, -⟩ | ⟨result, completed, finished⟩⟩ := kept.sound.heldSlot op ticket waker waits
  · exact absurd owes answered
  · refine ⟨result, finished, fun waker' env => ?_⟩
    have taken : (api.getCompletionResult s.driver ticket.token).1 = some result := by
      obtain ⟨lookup, -⟩ := api.get_spec s.driver ticket.token
      have there := CompletionTable.getCompletionResult_some.mpr ⟨⟨c, found, completed⟩, rfl⟩
      exact lookup.trans (congrArg Prod.fst there)
    unfold Clients.pollCompletion
    simp only [waits]
    split
    · rename_i other d asked
      rw [asked] at taken
      cases taken
      rfl
    · rename_i d asked
      rw [asked] at taken
      cases taken

/-- How far the completion of an operation that waits has come. -/
structure OnItsWay (target : Waker → Target) (op : Nat) (ticket : Ticket) (waker : Waker)
    (s : DrivenRuntime (operationsApi served)) : Prop where
  waits : s.runtime.driver.clients.ops op = .waiting ticket waker
  /-- The request is under way.  Or the next poll returns the result that the system gave to
  this very request, and the waker is in the hands of the loop or has had its effect. -/
  answer : ticket ∈ api.owed s.runtime.driver.clients.driver ∨
    (∃ result, (ticket, result) ∈ api.finished s.runtime.driver.clients.driver ∧ ∀ waker' env,
        (s.runtime.driver.clients.pollCompletion api op waker' env).1 = .ready (opOutput result)) ∧
      (waker ∈ s.toWake ∨ (target waker).Reached s.runtime)
  /-- The loop does not block with the waker in its hands. -/
  blocked : s.runtime.pc = .wait →
    ticket ∈ api.owed s.runtime.driver.clients.driver ∨ (target waker).Reached s.runtime

/-- A poll of an operation has returned `Pending`, with `waker`.  Whatever the system, the other
operations, the other tasks and the other threads do: until the operation is polled again or
dropped, or the task its waker wakes is polled or lost in a panic, the completion is on its way. -/
def CompletionsArrive (served : ServedDriver api) : Prop :=
  ∀ (target : Waker → Target) (s : DrivenRuntime (operationsApi served))
    (labels : List (DrivenLabel (operationsApi served))) (op : Nat) (ticket : Ticket) (waker : Waker),
    (completionMachine served target).Reachable s → s.runtime.driver.clients.ops op = .waiting ticket waker →
    ticket ∈ api.owed s.runtime.driver.clients.driver →
    (completionMachine served target).AllSteps (LetsRun target (LetsBe op) waker) s labels →
    (completionMachine served target).Throughout (OnItsWay target op ticket waker) s labels

theorem completionsArrive (served : ServedDriver api) : CompletionsArrive served := by
  intro target s labels op ticket waker reachable waits owes lets
  have throughout' := (waits_request served op ticket waker).throughout (kept_invariant served) reachable waits
    owes lets
  refine throughout'.mono ?_
  rintro u ⟨coupled, awaited, blocked⟩
  refine ⟨awaited.stands, ?_, blocked⟩
  by_cases running : ticket ∈ api.owed u.runtime.driver.clients.driver
  · exact .inl running
  · exact .inr ⟨ready_of_answered coupled.driver awaited.stands running, awaited.answer.resolve_left running⟩

/-- **A completion reaches the task that waits for it**, over io_uring and over IOCP. -/
theorem completion_reaches_its_task : CompletionsArrive UringDriver.served ∧ CompletionsArrive IocpDriver.served :=
  ⟨completionsArrive _, completionsArrive _⟩

/-- A task is polled for the first time and asks for a read; the poll is not over. -/
def untilAsked (served : ServedDriver api) (env : E) : List (DrivenLabel (operationsApi served)) :=
  [.runtime .spawn, .runtime .enter, .runtime .advance, .runtime (.polled true)] ++
    List.replicate 7 (.runtime .advance) ++ [.runtime (.call (.poll 0 ⟨7⟩ env))]

/-- The poll is over and the loop flushes; the driver wakes the task. -/
def untilWoken (served : ServedDriver api) (env : served.Env) : List (DrivenLabel (operationsApi served)) :=
  [.runtime (.polled true), .runtime .advance, .runtime (.flush env false), .wake, .runtime .localPush,
    .runtime .advance]

/-- Here the kernel takes the read and completes it while the flush submits. -/
def untilWokenByUring : List (DrivenLabel (operationsApi UringDriver.served)) :=
  untilWoken UringDriver.served ⟨UringDriver.idleEnter, ⟨2, [(1, 5)], .ok 2⟩, UringDriver.idleEnter⟩

/-- And here while the task is still polled. -/
def untilWokenByIocp : List (DrivenLabel (operationsApi IocpDriver.served)) :=
  .runtime (.kernel (.post 0 0 5 0)) :: untilWoken IocpDriver.served ⟨.ok 0, [.ok 1, .ok 0]⟩

def beforeRead (served : ServedDriver api) (s : Clients D) : DrivenRuntime (operationsApi served) :=
  ⟨.withOptions (D := operationsApi served) ⟨s, []⟩ 4, []⟩

/-- On both, the read's completion makes the loop poll the task again.  Every waker of these
runs is the task's. -/
theorem completion_reaches_its_task_after_flush :
    (∃ asked, (completionMachine UringDriver.served fun _ => .task 0).exec
          (beforeRead UringDriver.served UringDriver.newClients)
          (untilAsked UringDriver.served ⟨0, .ok (), UringDriver.idleEnter⟩) = some asked ∧
        ((completionMachine UringDriver.served fun _ => .task 0).exec asked untilWokenByUring).map
            (·.runtime.nextTask) = some [0] ∧
        (completionMachine UringDriver.served fun _ => .task 0).Throughout
          (OnItsWay (fun _ => .task 0) 0 ⟨0, 0⟩ ⟨7⟩) asked untilWokenByUring) ∧
      ∃ asked, (completionMachine IocpDriver.served fun _ => .task 0).exec
          (beforeRead IocpDriver.served newIocpClients)
          (untilAsked IocpDriver.served ⟨0, 0, .ok ()⟩) = some asked ∧
        ((completionMachine IocpDriver.served fun _ => .task 0).exec asked untilWokenByIocp).map
            (·.runtime.nextTask) = some [0] ∧
        (completionMachine IocpDriver.served fun _ => .task 0).Throughout
          (OnItsWay (fun _ => .task 0) 0 ⟨0, 0⟩ ⟨7⟩) asked untilWokenByIocp := by
  constructor
  · refine ⟨_, rfl, rfl, completion_reaches_its_task.1 _ _ _ _ _ _ ?_ rfl ?_ ?_⟩
    · exact ⟨beforeRead UringDriver.served UringDriver.newClients,
        untilAsked UringDriver.served ⟨0, .ok (), UringDriver.idleEnter⟩,
        ⟨_, 4, ⟨UringDriver.initial_newClients, rfl⟩, rfl⟩, rfl⟩
    · exact UringDriver.mem_owed.mpr ⟨UringDriver.operationEntry 0 0, by decide, rfl⟩
    · refine ⟨letsRun_of_bystander rfl (by rintro c ⟨⟩) (by rintro ⟨⟩) (by rintro _ ⟨⟩ ⟨⟨⟩, -⟩), ?_⟩
      rintro _ ⟨⟩
      refine ⟨letsRun_of_bystander rfl (by rintro c ⟨⟩) (by rintro ⟨⟩) (by rintro _ ⟨⟩ ⟨-, -, ⟨⟩⟩), ?_⟩
      rintro _ ⟨⟩
      refine ⟨letsRun_of_bystander rfl (by rintro c ⟨⟩) (by rintro ⟨⟩) (by rintro _ ⟨⟩ ⟨⟨⟩, -⟩), ?_⟩
      rintro _ ⟨⟩
      refine ⟨letsRun_of_bystander rfl (by rintro c ⟨⟩) (by rintro ⟨⟩) (by rintro _ ⟨⟩), ?_⟩
      rintro _ ⟨⟩
      refine ⟨letsRun_of_bystander rfl (by rintro c ⟨⟩) (by rintro ⟨⟩) (by rintro _ ⟨⟩ ⟨⟨⟩, -⟩), ?_⟩
      rintro _ ⟨⟩
      refine ⟨letsRun_of_bystander rfl (by rintro c ⟨⟩) (by rintro ⟨⟩) (by rintro _ ⟨⟩ ⟨-, ⟨⟩, -⟩), ?_⟩
      rintro _ ⟨⟩
      trivial
  · refine ⟨_, rfl, rfl, completion_reaches_its_task.2 _ _ _ _ _ _ ?_ rfl ?_ ?_⟩
    · exact ⟨beforeRead IocpDriver.served newIocpClients, untilAsked IocpDriver.served ⟨0, 0, .ok ()⟩,
        ⟨_, 4, ⟨initial_newIocpClients, rfl⟩, rfl⟩, rfl⟩
    · decide
    · refine ⟨letsRun_of_bystander rfl (by rintro c ⟨⟩) (by rintro ⟨⟩) (by rintro _ ⟨⟩ ⟨⟨⟩, -⟩), ?_⟩
      rintro _ ⟨⟩
      refine ⟨letsRun_of_bystander rfl (by rintro c ⟨⟩) (by rintro ⟨⟩) (by rintro _ ⟨⟩ ⟨⟨⟩, -⟩), ?_⟩
      rintro _ ⟨⟩
      refine ⟨letsRun_of_bystander rfl (by rintro c ⟨⟩) (by rintro ⟨⟩) (by rintro _ ⟨⟩ ⟨-, -, ⟨⟩⟩), ?_⟩
      rintro _ ⟨⟩
      refine ⟨letsRun_of_bystander rfl (by rintro c ⟨⟩) (by rintro ⟨⟩) (by rintro _ ⟨⟩ ⟨⟨⟩, -⟩), ?_⟩
      rintro _ ⟨⟩
      refine ⟨letsRun_of_bystander rfl (by rintro c ⟨⟩) (by rintro ⟨⟩) (by rintro _ ⟨⟩), ?_⟩
      rintro _ ⟨⟩
      refine ⟨letsRun_of_bystander rfl (by rintro c ⟨⟩) (by rintro ⟨⟩) (by rintro _ ⟨⟩ ⟨⟨⟩, -⟩), ?_⟩
      rintro _ ⟨⟩
      refine ⟨letsRun_of_bystander rfl (by rintro c ⟨⟩) (by rintro ⟨⟩) (by rintro _ ⟨⟩ ⟨-, ⟨⟩, -⟩), ?_⟩
      rintro _ ⟨⟩
      trivial

end Vibeio.Executor
