/-
# Driver.UringWakes -- whom a flush or a wait of the io_uring driver wakes

`collect_completions` submits, reads the completion queue, and may ask for the next interrupt;
only the reading ends requests.  Each part is a `Collects`, and `served` is the driver with
all of them.
-/
import Vibeio.Driver.Served
import Vibeio.Driver.UringOperations

namespace Vibeio.Driver

open Vibeio.Theory

set_option autoImplicit false

namespace UringDriver

variable {s : Clients UringDriver} {d : UringDriver}

/-- What the driver does in the background leaves driver and operations matching. -/
theorem kept_background (kept : Clients.Kept api s) (runs : background.Runs s.driver d) :
    Clients.Kept api { s with driver := d } := by
  obtain ⟨labels, ran⟩ := machine_background runs
  exact Machine.exec_invariant (M := Clients.machine api)
    (fun _ _ _ kept stepped => Clients.Kept.step kept stepped) kept ran

/-! ## Reading completions -/

theorem drainNext_collects {cqe : Cqe} {rest : List Cqe} (kept : Clients.Kept api s)
    (front : s.driver.ring.cq = cqe :: rest) :
    Collects api s (s.driver.drainNext cqe).woken.toList (s.driver.drainNext cqe).driver := by
  have inv : KeysInvariant s.driver := kept.inv
  have stepped : s.driver.ringStep .drain = some (s.driver.drainNext cqe).driver := by
    simp only [ringStep, front]
  have kept' := kept_background kept (.of_step .drain stepped)
  obtain ⟨-, same, -⟩ | ⟨cqe', rest', ticket, -, front', own, table, owed_eq, -⟩ := drain_reads inv front
  · exact .still kept' same
  · cases front.symm.trans front'
    refine .ends kept kept' owed_eq cqe.result ?_
    obtain reserved | ⟨token, fd, mask, -, asked⟩ | ⟨token, serial, small, asked⟩ :=
      inv.keyed _ (Ring.front_outstanding front)
    · rw [ticketOf_reserved reserved] at own
      cases own
    · rw [asked] at own
      cases own
    · rw [asked, ticketOf_operationEntry small] at own
      cases own
      rw [drainNext_operation small asked]
      rfl

theorem drainLoop_collects (n : Nat) (s : Clients UringDriver) (kept : Clients.Kept api s) :
    Collects api s (drainLoop n s.driver).1 (drainLoop n s.driver).2.2 := by
  induction n generalizing s with
  | zero => exact .refl kept
  | succ n ih =>
      unfold drainLoop
      split
      · exact .refl kept
      · rename_i cqe rest front
        have one := drainNext_collects kept front
        exact one.trans (ih _ one.kept)

/-! ## What else collect_completions does -/

theorem owed_pushed_reserved {entry : Sqe} {submit : Enter} {result : Except IoError Unit} {ring : Ring}
    (reserved : Reserved entry) (pushed : makeRoomAndPush d.ring entry submit = (result, ring)) :
    owed { d with ring := ring } = d.owed := by
  obtain ⟨err, -, moved⟩ | ⟨-, grown⟩ := makeRoomAndPush_cases pushed
  · exact owed_of_moved moved
  · exact owed_of_pushed grown (ticketOf_reserved reserved)

theorem owed_pushWaitTimeout {waitForOne : Bool} {timeout : Option Nat} {room : Enter}
    {result : Except IoError Unit} {ring : Ring}
    (pushed : d.pushWaitTimeout waitForOne timeout room = (result, ring)) :
    owed { d with ring := ring } = d.owed := by
  unfold pushWaitTimeout at pushed
  split at pushed
  · exact owed_pushed_reserved (.inr ⟨_, rfl⟩) pushed
  · cases pushed
    rfl

theorem owed_entered (d : UringDriver) (ring : Ring) (e : Enter) (pending : Bool) :
    owed { d with ring := ring.enter e, pendingSubmissions := pending } = owed { d with ring := ring } :=
  owed_of_moved (Ring.moved_enter ring e)

/-- Submitting reads no completion. -/
theorem owed_submitPhase (d : UringDriver) (waitForOne : Bool) (timeout : Option Nat) (env : CollectEnv) :
    (d.submitPhase waitForOne timeout env).2.owed = d.owed := by
  unfold submitPhase
  split
  · split
    · rename_i pushed
      exact owed_pushWaitTimeout pushed
    · rename_i ring pushed
      simp only
      split
      · exact (owed_entered d ring env.submit d.pendingSubmissions).trans (owed_pushWaitTimeout pushed)
      · exact (owed_entered d ring env.submit _).trans (owed_pushWaitTimeout pushed)
  · rfl

theorem owed_submitInterrupt {d' : UringDriver} {submit : Enter}
    (submitted : d.submitInterrupt submit = some d') : d'.owed = d.owed := by
  unfold submitInterrupt at submitted
  split at submitted
  · rename_i d'' pushed
    cases submitted
    obtain ⟨_, _, impossible, _⟩ | ⟨ring, -, grown, rfl⟩ := pushEntry_cases pushed
    · cases impossible
    · exact owed_of_pushed grown (ticketOf_reserved (.inl rfl))
  · cases submitted

/-- **One call of `collect_completions`**, and what its caller makes of it. -/
theorem collectCompletions_collects {waitForOne : Bool} {timeout : Option Nat} {env : CollectEnv}
    {wakers : List Waker} (kept : Clients.Kept api s)
    (called : (s.driver.collectCompletions waitForOne timeout env).bind Collected.finish = some (wakers, d)) :
    Collects api s wakers d := by
  obtain ⟨c, collected, finished⟩ := Option.bind_eq_some_iff.mp called
  have runs := collectCompletions_runs collected
  have owed_eq := owed_submitPhase s.driver waitForOne timeout env
  have submitted := submitPhase_runs s.driver waitForOne timeout env
  unfold collectCompletions at collected
  split at collected
  · rename_i err d' phase
    rw [phase] at owed_eq
    cases collected
    rw [finish_driver finished]
    exact .still (kept_background kept runs) owed_eq
  · rename_i d' phase
    rw [phase] at owed_eq submitted
    have first : Collects api s [] d' := .still (kept_background kept submitted) owed_eq
    have drained := first.trans (drainLoop_collects d'.ring.cq.length _ first.kept)
    simp only at collected
    split at collected
    · obtain ⟨d'', interrupted, rfl⟩ := Option.map_eq_some_iff.mp collected
      cases finished
      have keptEnd : Clients.Kept api { s with driver := d'' } := kept_background kept runs
      have last : Collects api { s with driver := d'.drainCq.2.2 } [] d'' :=
        .still keptEnd (owed_submitInterrupt interrupted)
      have whole := drained.trans last
      rwa [List.append_nil] at whole
    · cases collected
      cases finished
      exact drained

/-! ## The driver -/

/-- The futures ask for polls and registrations. -/
def asked : DriverStep → Bool
  | .background _ => false
  | _ => true

theorem owed_asked {k : DriverStep} {d' : UringDriver} (inv : KeysInvariant d) (futures : asked k = true)
    (stepped : d.driverStep k = some d') : d'.owed = d.owed := by
  obtain ⟨-, same, -⟩ | ⟨_, _, _, reads, -⟩ := driverStep_reads inv stepped
  · exact same
  · rw [reads] at futures
    cases futures

/-- On its own the kernel completes requests it holds. -/
def posted (d : UringDriver) (completes : Nat × Int) : UringDriver :=
  { d with ring := d.ring.post completes.1 completes.2 }

/-- The io_uring driver, as a runtime uses it. -/
def served : ServedDriver api where
  Env := CollectEnv
  Kernel := Nat × Int
  asked := asked
  kernel := fun d completes => some (d.posted completes)
  shouldFlush := shouldFlush
  flush := flush
  wait := wait
  asked_spec := fun _ _ _ inv futures stepped => owed_asked inv futures stepped
  kernel_spec := by
    rintro d ⟨i, result⟩ _ ⟨⟩
    exact ⟨⟨.background (.post i result), rfl⟩, owed_of_moved (Ring.moved_post d.ring i result)⟩
  flush_spec := fun _ _ _ _ kept flushed => collectCompletions_collects kept flushed
  wait_spec := fun _ _ _ _ _ kept waited => collectCompletions_collects kept waited

end UringDriver

end Vibeio.Driver
