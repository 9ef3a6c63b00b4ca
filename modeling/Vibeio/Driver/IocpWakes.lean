/-
# Driver.IocpWakes -- whom a flush or a wait of the IOCP driver wakes

Both take packets off the port batch by batch until a batch is empty, and a wait blocks for its
first.  Each batch is a `Collects`, and `served` is the driver with its two callers.
-/
import Vibeio.Driver.Served
import Vibeio.Driver.IocpOperations

namespace Vibeio.Driver

open Vibeio.Theory Iocp

set_option autoImplicit false

namespace IocpDriver

variable {s : Clients IocpDriver} {d : IocpDriver}

theorem kept_process {entry : Entry} {rest : List Entry} (kept : Clients.Kept api s)
    (front : s.driver.port.queue = entry :: rest) :
    Clients.Kept api { s with driver := (s.driver.processNext entry).2 } := by
  refine kept.step (l := .driver .process) ?_
  have stepped : s.driver.driverStep .process = some (s.driver.processNext entry).2 := by
    simp only [driverStep, front]
  show (s.driver.driverStep .process).map _ = _
  rw [stepped]
  rfl

theorem processNext_collects {entry : Entry} {rest : List Entry} (kept : Clients.Kept api s)
    (front : s.driver.port.queue = entry :: rest) :
    Collects api s (s.driver.processNext entry).1.toList (s.driver.processNext entry).2 := by
  have inv : KeysInvariant s.driver := kept.inv
  have kept' := kept_process kept front
  have port := processNext_port inv front
  have keyed : Keyed entry.request := by
    apply inv
    rw [Port.outstanding_pop front]
    exact Multiset.mem_cons_self _ _
  cases request : entry.request with
  | operation key token serial =>
      rw [request] at keyed
      have answers : ticketOf entry.request = some ⟨token, serial⟩ := by
        rw [request]
        rfl
      have owed_eq : s.driver.owed = ⟨token, serial⟩ ::ₘ (s.driver.processNext entry).2.owed := by
        rw [owed, owed, port, Port.outstanding_pop front, Multiset.filterMap_cons_some _ _ _ answers]
      refine .ends kept kept' owed_eq (completionResultFromEntry entry) ?_
      have notAfd : key ≠ AFD_POLL_COMPLETION_KEY := Nat.ne_of_lt keyed
      have notInterrupt : key ≠ INTERRUPT_KEY := by
        have small : key < AFD_POLL_COMPLETION_KEY := keyed
        unfold AFD_POLL_COMPLETION_KEY at small
        unfold INTERRUPT_KEY
        omega
      simp only [processNext, processEntry, Entry.completionKey, Entry.overlapped, request, notAfd, notInterrupt,
        if_false]
      rfl
  | interrupt | afdPoll =>
      have other : ticketOf entry.request = none := by
        rw [request]
        rfl
      refine .still kept' ?_
      show owed _ = owed _
      rw [owed, owed, port, Port.outstanding_pop front, Multiset.filterMap_cons_none _ _ other]

theorem processEntries_collects (n : Nat) (s : Clients IocpDriver) (kept : Clients.Kept api s) :
    Collects api s (s.driver.processEntries n).1 (s.driver.processEntries n).2 := by
  induction n generalizing s with
  | zero => exact .refl kept
  | succ n ih =>
      unfold processEntries
      split
      · exact .refl kept
      · rename_i entry rest front
        have one := processNext_collects kept front
        exact one.trans (ih _ one.kept)

theorem processBatch_collects (s : Clients IocpDriver) (kept : Clients.Kept api s) (dequeued : Dequeued) :
    Collects api s (s.driver.processBatch dequeued).2.1 (s.driver.processBatch dequeued).2.2 := by
  unfold processBatch
  cases dequeued with
  | error err =>
      simp only
      split <;> exact .refl kept
  | ok n => exact processEntries_collects _ s kept

theorem processReadyCompletions_collects (answers : List Dequeued) (s : Clients IocpDriver)
    (kept : Clients.Kept api s) :
    Collects api s (s.driver.processReadyCompletions answers).2.1 (s.driver.processReadyCompletions answers).2.2 := by
  induction answers generalizing s with
  | nil => exact .refl kept
  | cons dequeued rest ih =>
      have batch := processBatch_collects s kept dequeued
      unfold processReadyCompletions
      split <;> rename_i processed <;> rw [processed] at batch
      · exact batch
      · exact batch
      · exact batch.trans (ih _ batch.kept)

theorem flush_collects {answers : List Dequeued} {wakers : List Waker} (kept : Clients.Kept api s)
    (flushed : s.driver.flush answers = some (wakers, d)) : Collects api s wakers d := by
  have ready := processReadyCompletions_collects answers s kept
  unfold flush at flushed
  split at flushed <;> rename_i processed <;> rw [processed] at ready
  · cases flushed
    exact ready
  · split at flushed <;> cases flushed
    exact ready

theorem wait_collects {first : Dequeued} {answers : List Dequeued} {wakers : List Waker}
    (kept : Clients.Kept api s) (waited : s.driver.wait first answers = some (wakers, d)) :
    Collects api s wakers d := by
  have batch := processBatch_collects s kept first
  unfold wait at waited
  split at waited <;> rename_i processed <;> rw [processed] at batch
  · cases waited
    exact batch
  · have ready := processReadyCompletions_collects answers _ batch.kept
    split at waited
    · rename_i drained
      cases waited
      simp only [drained] at ready
      exact batch.trans ready
    · cases waited
  · split at waited <;> cases waited
    exact batch

/-! ## The driver -/

/-- The futures ask for polls and registrations. -/
def asked : DriverStep → Bool
  | .post .. | .interrupt | .process => false
  | _ => true

theorem owed_asked {k : DriverStep} {d' : IocpDriver} (futures : asked k = true)
    (stepped : d.driverStep k = some d') : d'.owed = d.owed := by
  have unmoved : d'.port = d.port → d'.owed = d.owed := by
    intro port
    rw [owed, owed, port]
  cases k with
  | post | interrupt | process => cases futures
  | submitPoll token waker interest env =>
      cases stepped
      obtain ⟨-, same | pushed⟩ := submitPoll_effect d token waker interest env
      · exact unmoved same
      · rw [owed, owed, pushed.outstanding, Multiset.filterMap_cons_none _ _ rfl]
  | register interest mode env =>
      cases stepped
      exact unmoved (registerHandleWithMode_frame d interest mode env).2
  | reregister token interest =>
      cases stepped
      refine unmoved ?_
      unfold reregisterHandle
      split <;> rfl
  | deregister token =>
      cases stepped
      refine unmoved ?_
      unfold deregisterHandle
      split <;> rfl

/-- What the system does on its own: it completes a request, or queues a posted interrupt. -/
inductive PortStep where
  | post (i : Nat) (internal : Int) (bytes : Nat) (dosError : Int)
  | interrupt

def portStep (d : IocpDriver) : PortStep → IocpDriver
  | .post i internal bytes dosError => { d with port := d.port.post i internal bytes dosError }
  | .interrupt => { d with port := d.port.interrupt }

/-- What the system answers during a flush or a wait; a flush blocks for nothing. -/
structure DequeueEnv where
  first : Dequeued
  answers : List Dequeued

/-- The IOCP driver, as a runtime uses it. -/
def served : ServedDriver api where
  Env := DequeueEnv
  Kernel := PortStep
  asked := asked
  kernel := fun d change => some (d.portStep change)
  shouldFlush := fun _ => true
  flush := fun d env => d.flush env.answers
  wait := fun d _ env => d.wait env.first env.answers
  asked_spec := fun _ _ _ _ futures stepped => owed_asked futures stepped
  kernel_spec := by
    rintro d change _ ⟨⟩
    cases change with
    | post i internal bytes dosError =>
        refine ⟨⟨.post i internal bytes dosError, rfl⟩, ?_⟩
        show owed _ = owed _
        rw [owed, owed, portStep, (Port.moved_post d.port i internal bytes dosError).outstanding]
    | interrupt =>
        refine ⟨⟨.interrupt, rfl⟩, ?_⟩
        show owed _ = owed _
        rw [owed, owed, portStep, (Port.pushed_interrupt d.port).outstanding, Multiset.filterMap_cons_none _ _ rfl]
  flush_spec := fun _ _ _ _ kept flushed => flush_collects kept flushed
  wait_spec := fun _ _ _ _ _ kept waited => wait_collects kept waited

end IocpDriver

end Vibeio.Driver
