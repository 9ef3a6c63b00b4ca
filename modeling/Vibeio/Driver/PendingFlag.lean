/-
# Driver.PendingFlag -- the pending-submission flag of the io_uring driver

`should_flush` reads `pending_submissions` and not the queue.  `push_entry` raises the flag,
and `collect_completions` stores whether the queue is empty once the kernel has been entered.
Two things fall outside: an error leaves before that store, and on kernels without extended
arguments the timeout of a wait is pushed by hand, without raising the flag.

* `pending_flag_iff`: the flag covers the queue throughout a run exactly as long as no such
  wait, begun with the flag down, is interrupted before the kernel has taken its timeout.
-/
import Vibeio.Driver.UringSteps

namespace Vibeio.Driver

open Vibeio.Theory

set_option autoImplicit false

/-! ## The queue and the kernel -/

/-- The kernel was interrupted. -/
def Enter.interrupted (e : Enter) : Bool :=
  match e.result with
  | .ok _ => false
  | .error err => err.isInterrupted

theorem Ring.foldl_post_sq (posted : List (Nat × Int)) (r : Ring) :
    (posted.foldl (fun r p => r.post p.1 p.2) r).sq = r.sq ∧
      (posted.foldl (fun r p => r.post p.1 p.2) r).capacity = r.capacity := by
  induction posted generalizing r with
  | nil => exact ⟨rfl, rfl⟩
  | cons p rest ih =>
      have one : (r.post p.1 p.2).sq = r.sq ∧ (r.post p.1 p.2).capacity = r.capacity := by
        unfold Ring.post
        split <;> exact ⟨rfl, rfl⟩
      exact ⟨(ih _).1.trans one.1, (ih _).2.trans one.2⟩

theorem Ring.enter_sq (r : Ring) (e : Enter) : (r.enter e).sq = r.sq.drop e.consumed :=
  (foldl_post_sq e.posted (r.consume e.consumed)).1

theorem Ring.enter_capacity (r : Ring) (e : Enter) : (r.enter e).capacity = r.capacity :=
  (foldl_post_sq e.posted (r.consume e.consumed)).2

namespace UringDriver

/-! ## Calls on the driver -/

/-- A call on the driver, with what the kernel does meanwhile, or a request the kernel
completes between two calls. -/
inductive CallStep where
  | submitPoll (token : Nat) (waker : Waker) (interest : Interest) (submit : Enter)
  | submitCompletion (serial : Nat) (waker : Waker) (key : Nat) (built : Except IoError Unit)
      (submit : Enter)
  | submitInterrupt (submit : Enter)
  | flush (env : CollectEnv)
  | wait (timeout : Option Nat) (env : CollectEnv)
  | registerHandle (fd : Int) (interest : Interest) (mode : RegistrationMode) (key : Nat)
  | reregisterHandle (token : Nat) (interest : Interest)
  | deregisterHandle (token : Nat)
  | getCompletionResult (token : Nat)
  | setCompletionWaker (token : Nat) (waker : Waker)
  | ignoreCompletion (token : Nat) (data : IgnoredData)
  | post (i : Nat) (result : Int)

def callStep (d : UringDriver) : CallStep → Option UringDriver
  | .submitPoll token waker interest submit => some (d.submitPoll token waker interest submit).2
  | .submitCompletion serial waker key built submit =>
      some (d.submitCompletion serial waker key built submit).2
  | .submitInterrupt submit => d.submitInterrupt submit
  | .flush env => (d.flush env).map (·.2)
  | .wait timeout env => (d.wait timeout env).map (·.2)
  | .registerHandle fd interest mode key => some (d.registerHandleWithMode fd interest mode key).2
  | .reregisterHandle token interest => some (d.reregisterHandle token interest).2
  | .deregisterHandle token => some (d.deregisterHandle token).2
  | .getCompletionResult token => some (d.getCompletionResult token).2
  | .setCompletionWaker token waker => some (d.setCompletionWaker token waker)
  | .ignoreCompletion token data => some (d.ignoreCompletion token data)
  | .post i result => some { d with ring := d.ring.post i result }

/-- Any calls on a driver that was made. -/
def callMachine : Machine UringDriver CallStep where
  start d := ∃ entries extArg submit, new entries extArg submit = some d
  step := callStep

/-- Entries the kernel has not taken are announced. -/
def FlagCovers (d : UringDriver) : Prop := d.ring.sq ≠ [] → d.shouldFlush = true

instance (d : UringDriver) : Decidable d.FlagCovers :=
  inferInstanceAs (Decidable (d.ring.sq ≠ [] → d.shouldFlush = true))

/-- Not a wait with a timeout and without extended arguments, begun with the flag down, whose
submission is interrupted before the kernel has taken an entry. -/
def TimeoutTaken (d : UringDriver) : CallStep → Prop
  | .wait (some _) env =>
      ¬ (d.extArg = false ∧ d.pendingSubmissions = false ∧ env.submit.interrupted = true ∧
        env.submit.consumed = 0)
  | _ => True

/-! ## What a step does to the queue -/

/-- The flag covers the queue, and the queue has room for something. -/
structure FlagInv (d : UringDriver) : Prop where
  covers : d.FlagCovers
  capacity : 0 < d.ring.capacity

/-- With the flag up, whatever becomes of the queue is announced. -/
theorem FlagInv.of_raised {d : UringDriver} (raised : d.pendingSubmissions = true)
    (capacity : 0 < d.ring.capacity) : d.FlagInv :=
  ⟨fun _ => raised, capacity⟩

/-- Making room and pushing: the capacity stays; a queue that was empty is empty after an
error and otherwise holds the entry. -/
theorem makeRoomAndPush_sq (ring : Ring) (entry : Sqe) (submit : Enter) :
    (makeRoomAndPush ring entry submit).2.capacity = ring.capacity ∧
    (ring.sq = [] → (makeRoomAndPush ring entry submit).1 = .ok () ∧
        (makeRoomAndPush ring entry submit).2.sq = [entry] ∨
      (∃ err, (makeRoomAndPush ring entry submit).1 = .error err) ∧
        (makeRoomAndPush ring entry submit).2.sq = []) := by
  have moved : (if ring.isFull then ring.enter submit else ring).capacity = ring.capacity ∧
      (ring.sq = [] → (if ring.isFull then ring.enter submit else ring).sq = []) := by
    split
    · exact ⟨Ring.enter_capacity _ _, fun empty => by rw [Ring.enter_sq, empty, List.drop_nil]⟩
    · exact ⟨rfl, id⟩
  unfold makeRoomAndPush
  simp only
  generalize (if ring.isFull then ring.enter submit else ring) = roomy at moved
  split
  · exact ⟨moved.1, fun empty => .inr ⟨⟨_, rfl⟩, moved.2 empty⟩⟩
  · unfold Ring.push
    by_cases full : roomy.isFull
    · simp only [full, if_true]
      exact ⟨moved.1, fun empty => .inr ⟨⟨_, rfl⟩, moved.2 empty⟩⟩
    · simp only [full, if_false, Bool.false_eq_true]
      exact ⟨moved.1, fun empty => .inl ⟨trivial, by rw [moved.2 empty, List.nil_append]⟩⟩

theorem FlagInv.pushEntry {d : UringDriver} (inv : d.FlagInv) (entry : Sqe) (submit : Enter) :
    (d.pushEntry entry submit).2.FlagInv := by
  obtain ⟨capacity, outcome⟩ := makeRoomAndPush_sq d.ring entry submit
  unfold UringDriver.pushEntry
  rcases attempt : makeRoomAndPush d.ring entry submit with ⟨result, ring⟩
  rw [attempt] at capacity outcome
  have positive : 0 < ring.capacity := by
    rw [show ring.capacity = d.ring.capacity from capacity]
    exact inv.capacity
  cases result with
  | ok _ => exact .of_raised rfl positive
  | error err =>
      refine ⟨fun (queued : ring.sq ≠ []) => ?_, positive⟩
      -- the queue was not empty before, so the flag was up
      by_cases empty : d.ring.sq = []
      · rcases outcome empty with ⟨impossible, -⟩ | ⟨-, none_left⟩
        · cases impossible
        · exact absurd none_left queued
      · exact inv.covers empty

theorem FlagInv.submitInterrupt {d d' : UringDriver} (inv : d.FlagInv) {submit : Enter}
    (submitted : d.submitInterrupt submit = some d') : d'.FlagInv := by
  have pushed := inv.pushEntry interruptEntry submit
  unfold UringDriver.submitInterrupt at submitted
  split at submitted
  · rename_i attempt
    cases submitted
    rwa [attempt] at pushed
  · cases submitted

/-- Two drivers with the same queue and the same flag. -/
theorem FlagInv.congr {d d' : UringDriver} (inv : d.FlagInv) (sq : d'.ring.sq = d.ring.sq)
    (capacity : d'.ring.capacity = d.ring.capacity)
    (flag : d'.pendingSubmissions = d.pendingSubmissions) : d'.FlagInv :=
  ⟨fun queued => flag.trans (inv.covers (sq ▸ queued)), capacity ▸ inv.capacity⟩

theorem FlagInv.drainNext {d : UringDriver} (inv : d.FlagInv) (cqe : Cqe) :
    (d.drainNext cqe).driver.FlagInv := by
  have popped : ({ d with ring := d.ring.pop } : UringDriver).FlagInv := inv.congr rfl rfl rfl
  unfold UringDriver.drainNext drainCqe
  simp only
  split
  · exact popped
  · split
    · exact popped
    · split
      · split
        · exact popped.congr rfl rfl rfl
        · exact popped
      · exact popped.congr rfl rfl rfl

theorem FlagInv.drainLoop {d : UringDriver} (n : Nat) (inv : d.FlagInv) :
    (UringDriver.drainLoop n d).2.2.FlagInv := by
  induction n generalizing d with
  | zero => exact inv
  | succ n ih =>
      unfold UringDriver.drainLoop
      split
      · exact inv
      · exact ih (inv.drainNext _)

/-! ## `collect_completions` -/

/-- Before the kernel is entered an empty queue is still empty, or holds the timeout of a wait
without extended arguments. -/
theorem pushWaitTimeout_sq (d : UringDriver) (waitForOne : Bool) (timeout : Option Nat) (room : Enter) :
    (d.pushWaitTimeout waitForOne timeout room).2.capacity = d.ring.capacity ∧
    (d.ring.sq = [] → (d.pushWaitTimeout waitForOne timeout room).2.sq = [] ∨
      (waitForOne = true ∧ d.extArg = false ∧ ∃ nanos, timeout = some nanos ∧
        (d.pushWaitTimeout waitForOne timeout room).1 = .ok () ∧
        (d.pushWaitTimeout waitForOne timeout room).2.sq = [timeoutEntry nanos])) := by
  unfold pushWaitTimeout
  split
  · rename_i nanos ext
    obtain ⟨capacity, outcome⟩ := makeRoomAndPush_sq d.ring (timeoutEntry nanos) room
    refine ⟨capacity, fun empty => ?_⟩
    rcases outcome empty with ⟨done, queued⟩ | ⟨-, none_left⟩
    · exact .inr ⟨rfl, ext, nanos, rfl, done, queued⟩
    · exact .inl none_left
  · exact ⟨rfl, fun empty => .inl empty⟩

theorem submitterCallResult_error {result : Except IoError Nat} {err : IoError}
    (failed : submitterCallResult result = .error err) : result = .error err := by
  unfold submitterCallResult at failed
  split at failed
  · cases failed
  · split at failed
    · cases failed
    · split at failed
      · cases failed
      · cases failed
        rfl

/-- A result `flush` and `wait` return from. -/
def Swallowed (result : Except IoError Unit) : Prop :=
  ∀ err, result = .error err → err.isInterrupted = true

theorem FlagInv.submitPhase {d : UringDriver} (inv : d.FlagInv) {waitForOne : Bool}
    {timeout : Option Nat} {env : CollectEnv}
    (allowed : waitForOne = true → d.TimeoutTaken (.wait timeout env))
    (swallowed : Swallowed (d.submitPhase waitForOne timeout env).1) :
    (d.submitPhase waitForOne timeout env).2.FlagInv := by
  obtain ⟨capacity, outcome⟩ := d.pushWaitTimeout_sq waitForOne timeout env.room
  unfold UringDriver.submitPhase at swallowed ⊢
  by_cases enters : (waitForOne || !d.ring.sq.isEmpty) = true
  · rw [if_pos enters] at swallowed ⊢
    rcases pushed : d.pushWaitTimeout waitForOne timeout env.room with ⟨result, ring⟩
    rw [pushed] at capacity outcome swallowed
    have positive : 0 < ring.capacity := by
      rw [show ring.capacity = d.ring.capacity from capacity]
      exact inv.capacity
    have entered : 0 < (ring.enter env.submit).capacity := by
      rw [Ring.enter_capacity]
      exact positive
    cases result with
    | error err =>
        refine ⟨fun (queued : ring.sq ≠ []) => ?_, positive⟩
        by_cases empty : d.ring.sq = []
        · rcases outcome empty with none_left | ⟨-, -, _, -, impossible, -⟩
          · exact absurd none_left queued
          · cases impossible
        · exact inv.covers empty
    | ok _ =>
        cases call : submitterCallResult env.submit.result with
        | ok _ =>
            refine ⟨fun (queued : (ring.enter env.submit).sq ≠ []) => ?_, entered⟩
            simpa [UringDriver.shouldFlush] using queued
        | error err =>
            simp only [call] at swallowed ⊢
            refine ⟨fun (queued : (ring.enter env.submit).sq ≠ []) => ?_, entered⟩
            by_cases empty : d.ring.sq = []
            · rw [Ring.enter_sq] at queued
              rcases outcome empty with none_left | ⟨waits, ext, nanos, rfl, -, one⟩
              · exact absurd (by rw [none_left, List.drop_nil]) queued
              · -- only the timeout can be there, so the kernel has taken nothing
                have untouched : env.submit.consumed = 0 := by
                  by_contra some_
                  apply queued
                  rw [one]
                  exact List.drop_eq_nil_of_le (by simp only [List.length_singleton]; omega)
                have interrupted : env.submit.interrupted = true := by
                  simp only [Enter.interrupted, submitterCallResult_error call]
                  exact swallowed err rfl
                by_contra lowered
                have down : d.pendingSubmissions = false := by simpa [UringDriver.shouldFlush] using lowered
                exact allowed waits ⟨ext, down, interrupted, untouched⟩
            · exact inv.covers empty
  · rw [if_neg enters]
    have empty : d.ring.sq = [] := by
      simp only [Bool.or_eq_true, Bool.not_eq_true', not_or, Bool.not_eq_true, Bool.not_eq_false] at enters
      exact List.isEmpty_iff.mp enters.2
    exact ⟨fun queued => absurd empty queued, inv.capacity⟩

theorem FlagInv.collect {d : UringDriver} (inv : d.FlagInv) {waitForOne : Bool}
    {timeout : Option Nat} {env : CollectEnv} {c : Collected}
    (allowed : waitForOne = true → d.TimeoutTaken (.wait timeout env))
    (collected : d.collectCompletions waitForOne timeout env = some c) (swallowed : Swallowed c.result) :
    c.driver.FlagInv := by
  have phase := inv.submitPhase allowed
  unfold collectCompletions at collected
  rcases submitted : d.submitPhase waitForOne timeout env with ⟨result, d'⟩
  rw [submitted] at collected phase
  cases result with
  | error err =>
      cases collected
      exact phase swallowed
  | ok _ =>
      have drained : d'.drainCq.2.2.FlagInv :=
        FlagInv.drainLoop d'.ring.cq.length (phase fun err same => by cases same)
      simp only at collected
      by_cases needInterrupt : d'.drainCq.2.1 = true
      · rw [if_pos needInterrupt] at collected
        obtain ⟨after, interrupted, rfl⟩ := Option.map_eq_some_iff.mp collected
        exact drained.submitInterrupt interrupted
      · rw [if_neg needInterrupt] at collected
        cases collected
        exact drained

theorem Collected.finish_swallowed {c : Collected} {wakers : List Waker} {d : UringDriver}
    (finished : c.finish = some (wakers, d)) : Swallowed c.result ∧ d = c.driver := by
  unfold Collected.finish at finished
  split at finished
  · rename_i same
    cases finished
    refine ⟨fun err failed => ?_, rfl⟩
    cases same.symm.trans failed
  · rename_i err same
    split at finished
    · rename_i interrupted
      cases finished
      refine ⟨fun other failed => ?_, rfl⟩
      cases same.symm.trans failed
      exact interrupted
    · cases finished

/-! ## Runs -/

theorem FlagInv.new {entries : Nat} {extArg : Bool} {submit : Enter} {d : UringDriver}
    (created : UringDriver.new entries extArg submit = some d) : d.FlagInv := by
  unfold UringDriver.new at created
  have capacity : 0 < entries := by
    by_contra none_
    have zero : entries = 0 := by omega
    subst zero
    unfold UringDriver.submitInterrupt UringDriver.pushEntry makeRoomAndPush at created
    simp only [Ring.isFull, List.length_nil, Nat.le_refl, decide_true, if_true, Ring.push,
      Ring.enter_sq, Ring.enter_capacity, List.drop_nil] at created
    split at created
    · rename_i attempt
      split at attempt
      · cases attempt
      · rename_i pushed
        split at pushed <;> cases pushed
    · cases created
  exact FlagInv.submitInterrupt ⟨fun queued => absurd rfl queued, capacity⟩ created

theorem FlagInv.submitPoll {d : UringDriver} (inv : d.FlagInv) (token : Nat) (waker : Waker)
    (interest : Interest) (submit : Enter) : (d.submitPoll token waker interest submit).2.FlagInv := by
  unfold UringDriver.submitPoll
  split
  · exact inv
  · exact inv
  · rename_i r _
    simp only
    have armed : (d.setPoll token (armPoll r waker interest).1).FlagInv := inv.congr rfl rfl rfl
    cases (armPoll r waker interest).2 with
    | none => exact armed
    | some spec =>
        have pushed := armed.pushEntry (pollAddEntry token spec.1 spec.2) submit
        simp only [pushPollAdd]
        rcases attempt : (d.setPoll token (armPoll r waker interest).1).pushEntry
          (pollAddEntry token spec.1 spec.2) submit with ⟨result, d''⟩
        rw [attempt] at pushed
        cases result with
        | ok _ => exact pushed
        | error err => exact pushed.congr rfl rfl rfl

theorem FlagInv.submitCompletion {d : UringDriver} (inv : d.FlagInv) (serial : Nat) (waker : Waker)
    (key : Nat) (built : Except IoError Unit) (submit : Enter) :
    (d.submitCompletion serial waker key built submit).2.FlagInv := by
  unfold UringDriver.submitCompletion
  cases built with
  | error err => exact inv
  | ok _ =>
      have pushed := inv.pushEntry ⟨encodeCompletionKey key, .operation serial⟩ submit
      simp only
      rcases attempt : d.pushEntry ⟨encodeCompletionKey key, .operation serial⟩ submit with ⟨result, d''⟩
      rw [attempt] at pushed
      cases result with
      | error err => exact pushed
      | ok _ => exact pushed.congr rfl rfl rfl

theorem FlagInv.step {d d' : UringDriver} {label : CallStep} (inv : d.FlagInv)
    (allowed : d.TimeoutTaken label) (stepped : d.callStep label = some d') : d'.FlagInv := by
  cases label with
  | submitPoll token waker interest submit =>
      cases stepped
      exact inv.submitPoll token waker interest submit
  | submitCompletion serial waker key built submit =>
      cases stepped
      exact inv.submitCompletion serial waker key built submit
  | submitInterrupt submit => exact inv.submitInterrupt stepped
  | flush env =>
      obtain ⟨⟨wakers, after⟩, flushed, rfl⟩ := Option.map_eq_some_iff.mp stepped
      obtain ⟨c, collected, finished⟩ := Option.bind_eq_some_iff.mp flushed
      obtain ⟨swallowed, rfl⟩ := Collected.finish_swallowed finished
      have never : false = true → d.TimeoutTaken (.wait none env) := fun _ => trivial
      exact inv.collect never collected swallowed
  | wait timeout env =>
      obtain ⟨⟨wakers, after⟩, waited, rfl⟩ := Option.map_eq_some_iff.mp stepped
      obtain ⟨c, collected, finished⟩ := Option.bind_eq_some_iff.mp waited
      obtain ⟨swallowed, rfl⟩ := Collected.finish_swallowed finished
      exact inv.collect (fun _ => allowed) collected swallowed
  | registerHandle fd interest mode key =>
      cases stepped
      exact inv.congr rfl rfl rfl
  | reregisterHandle token interest =>
      cases stepped
      unfold UringDriver.reregisterHandle
      split <;> exact inv.congr rfl rfl rfl
  | deregisterHandle token =>
      cases stepped
      unfold UringDriver.deregisterHandle
      split <;> exact inv.congr rfl rfl rfl
  | getCompletionResult token =>
      cases stepped
      exact inv.congr rfl rfl rfl
  | setCompletionWaker token waker =>
      cases stepped
      exact inv.congr rfl rfl rfl
  | ignoreCompletion token data =>
      cases stepped
      exact inv.congr rfl rfl rfl
  | post i result =>
      cases stepped
      obtain ⟨sq, capacity⟩ := Ring.foldl_post_sq [(i, result)] d.ring
      exact inv.congr sq capacity rfl

/-- The timeout stays in the queue and nothing announces it. -/
theorem FlagInv.broken {d d' : UringDriver} {label : CallStep} (inv : d.FlagInv)
    (outside : ¬ d.TimeoutTaken label) (stepped : d.callStep label = some d') : ¬ d'.FlagCovers := by
  cases label with
  | wait timeout env =>
      cases timeout with
      | none => exact absurd trivial outside
      | some nanos =>
          obtain ⟨ext, down, interrupted, untouched⟩ := Classical.not_not.mp outside
          have empty : d.ring.sq = [] := by
            by_contra queued
            have raised := inv.covers queued
            rw [UringDriver.shouldFlush, down] at raised
            cases raised
          obtain ⟨err, failed, is_interrupted⟩ : ∃ err, env.submit.result = .error err ∧
              err.isInterrupted = true := by
            unfold Enter.interrupted at interrupted
            split at interrupted
            · cases interrupted
            · rename_i err failed
              exact ⟨err, failed, interrupted⟩
          have call : submitterCallResult env.submit.result = .error err := by
            have code : err.rawOsError = some EINTR := by
              simpa [IoError.isInterrupted] using is_interrupted
            simp [submitterCallResult, failed, code, EINTR, EBUSY, ETIME]
          have room : d.ring.isFull = false := by
            have := inv.capacity
            simp only [Ring.isFull, empty, List.length_nil, decide_eq_false_iff_not]
            omega
          have pushed : d.pushWaitTimeout true (some nanos) env.room =
              (.ok (), { d.ring with sq := d.ring.sq ++ [timeoutEntry nanos] }) := by
            simp [pushWaitTimeout, ext, makeRoomAndPush, room, Ring.push]
          have left : d.wait (some nanos) env = some ([],
              { d with ring := { d.ring with sq := d.ring.sq ++ [timeoutEntry nanos] }.enter env.submit }) := by
            simp [UringDriver.wait, collectCompletions, UringDriver.submitPhase, pushed, call,
              Collected.finish, is_interrupted]
          rw [callStep, left] at stepped
          cases stepped
          intro covers
          have raised := covers (by simp [Ring.enter_sq, empty, untouched])
          rw [UringDriver.shouldFlush, down] at raised
          cases raised
  | _ => exact absurd trivial outside

/-- **When the flag tells the truth.**  A run from a new driver keeps every entry the kernel has
not taken announced, between any two calls, if and only if it has no wait with a timeout, without
extended arguments and begun with the flag down, that is interrupted before the kernel takes
anything. -/
theorem pending_flag_iff (entries : Nat) (extArg : Bool) (submit : Enter) (first last : UringDriver)
    (labels : List CallStep) (created : UringDriver.new entries extArg submit = some first)
    (ran : callMachine.exec first labels = some last) :
    callMachine.Throughout FlagCovers first labels ↔ callMachine.AllSteps TimeoutTaken first labels :=
  Machine.throughout_iff_allSteps (fun _ _ _ inv allowed stepped => FlagInv.step inv allowed stepped)
    (fun _ inv => inv.covers) (fun _ _ _ inv outside stepped => FlagInv.broken inv outside stepped)
    (FlagInv.new created) ran

/-- The kernel takes what there is. -/
def takesAll : Enter := ⟨8, [], .ok 1⟩

/-- The kernel is interrupted and takes nothing. -/
def takesNothing : Enter := ⟨0, [], .error (.os EINTR)⟩

/-- A wait of a millisecond without extended arguments whose timeout the kernel takes. -/
theorem pending_flag_timeout_taken :
    ∃ first last, UringDriver.new 4 false takesAll = some first ∧
      callMachine.exec first [.flush ⟨takesAll, takesAll, takesAll⟩,
        .wait (some 1000000) ⟨takesAll, takesAll, takesAll⟩] = some last ∧
      callMachine.Throughout FlagCovers first [.flush ⟨takesAll, takesAll, takesAll⟩,
        .wait (some 1000000) ⟨takesAll, takesAll, takesAll⟩] := by
  refine ⟨_, _, rfl, rfl, (pending_flag_iff 4 false takesAll _ _ _ rfl rfl).mpr ?_⟩
  refine ⟨trivial, fun next _ => ⟨?_, fun _ _ => trivial⟩⟩
  rintro ⟨-, -, interrupted, -⟩
  cases interrupted

/-- The same wait interrupted at once: the timeout is left in the queue with the flag down. -/
theorem pending_flag_lost :
    ∃ first last, UringDriver.new 4 false takesAll = some first ∧
      callMachine.exec first [.flush ⟨takesAll, takesAll, takesAll⟩,
        .wait (some 1000000) ⟨takesAll, takesNothing, takesAll⟩] = some last ∧
      last.ring.sq = [timeoutEntry 1000000] ∧ ¬ last.FlagCovers := by
  refine ⟨_, _, rfl, rfl, rfl, ?_⟩
  decide

end UringDriver

end Vibeio.Driver
