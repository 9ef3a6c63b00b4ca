/-
# Driver.UringSteps -- what the io_uring driver does to the ring, step by step

`flush`, `wait` and every push are made of a few kinds of small steps: the kernel
moves entries inside the ring, the pending flag is stored, an entry of the
driver's own is pushed, one completion is read.  `RingStep` names them, and
`flush_runs`, `wait_runs` say that the functions of the source are runs of them.
What holds after every run of small steps holds after the functions, also in the
middle of `drain_cq`.

* `pushEntry_cases`, `ringStep_cases`: everything a push and a small step can do.
* `decode_encodePollKey`, `decode_encodeCompletionKey`, `encode_disjoint`: the
  `user_data` of an entry decides who it is for.
-/
import Mathlib.Tactic.Abel
import Vibeio.Driver.Uring
import Vibeio.Theory.Machine

namespace Vibeio.Driver

open Vibeio.Theory

set_option autoImplicit false

/-! ## Keys -/

theorem asU64_of_lt {n : Nat} (small : n < 2 ^ 64) : asU64 n = n := Nat.mod_eq_of_lt small

/-- Slab indices stay below this bound, so shifting one by the kind bit loses
nothing. -/
def TOKEN_LIMIT : Nat := 2 ^ 62

theorem encodePollKey_eq {token : Nat} (small : token < TOKEN_LIMIT) :
    encodePollKey token = 2 * token := by
  unfold TOKEN_LIMIT at small
  have shifted : asU64 (asU64 token <<< KEY_KIND_BITS) = 2 * token := by
    have fits : asU64 token = token := asU64_of_lt (by omega)
    rw [fits, KEY_KIND_BITS, Nat.shiftLeft_eq, asU64_of_lt (by omega)]
    omega
  rw [encodePollKey, shifted, POLL_KEY_KIND, Nat.or_zero]

theorem encodeCompletionKey_eq {token : Nat} (small : token < TOKEN_LIMIT) :
    encodeCompletionKey token = 2 * token + 1 := by
  have even := encodePollKey_eq small
  rw [encodePollKey, POLL_KEY_KIND, Nat.or_zero] at even
  rw [encodeCompletionKey, even, COMPLETION_KEY_KIND]
  exact (Nat.two_pow_add_eq_or_of_lt (i := 1) (by decide) token).symm

theorem decodeToken_eq (key : Nat) : decodeToken key = key / 2 := Nat.shiftRight_eq_div_pow key 1

theorem decodeKeyKind_eq (key : Nat) : decodeKeyKind key = key % 2 := Nat.and_one_is_mod key

/-- Every use of a poll key: it is not reserved, and it decodes to its token. -/
theorem decode_encodePollKey {token : Nat} (small : token < TOKEN_LIMIT) :
    encodePollKey token < U64_MAX - 1 ∧ decodeToken (encodePollKey token) = token ∧
      decodeKeyKind (encodePollKey token) = POLL_KEY_KIND := by
  rw [encodePollKey_eq small, decodeToken_eq, decodeKeyKind_eq]
  unfold TOKEN_LIMIT at small
  unfold U64_MAX POLL_KEY_KIND
  omega

theorem decode_encodeCompletionKey {token : Nat} (small : token < TOKEN_LIMIT) :
    encodeCompletionKey token < U64_MAX - 1 ∧ decodeToken (encodeCompletionKey token) = token ∧
      decodeKeyKind (encodeCompletionKey token) = COMPLETION_KEY_KIND := by
  rw [encodeCompletionKey_eq small, decodeToken_eq, decodeKeyKind_eq]
  unfold TOKEN_LIMIT at small
  unfold U64_MAX COMPLETION_KEY_KIND
  omega

theorem encodePollKey_inj {a b : Nat} (smallA : a < TOKEN_LIMIT) (smallB : b < TOKEN_LIMIT)
    (same : encodePollKey a = encodePollKey b) : a = b := by
  rw [encodePollKey_eq smallA, encodePollKey_eq smallB] at same
  omega

/-! ## The ring -/

namespace Ring

/-- The kernel has moved entries inside the ring: none came or went, and the
driver has read nothing. -/
structure Moved (r r' : Ring) : Prop where
  outstanding : r'.outstanding = r.outstanding
  drained : r'.drained = r.drained

theorem Moved.refl (r : Ring) : Moved r r := ⟨rfl, rfl⟩

theorem Moved.trans {a b c : Ring} (first : Moved a b) (second : Moved b c) : Moved a c :=
  ⟨second.outstanding.trans first.outstanding, second.drained.trans first.drained⟩

theorem moved_post (r : Ring) (i : Nat) (result : Int) : Moved r (r.post i result) := by
  unfold post
  cases found : r.inFlight[i]? with
  | none => exact .refl r
  | some sqe =>
      refine ⟨?_, rfl⟩
      simp only [outstanding, List.map_append, List.map_cons, List.map_nil, coe_eq_cons_eraseIdx found,
        ← Multiset.coe_add, ← Multiset.singleton_add, Multiset.coe_singleton]
      abel

theorem moved_consume (r : Ring) (n : Nat) : Moved r (r.consume n) := by
  refine ⟨?_, rfl⟩
  have whole : (r.sq : Multiset Sqe) = ↑(r.sq.take n) + ↑(r.sq.drop n) := by
    rw [Multiset.coe_add, List.take_append_drop]
  simp only [outstanding, consume, whole, ← Multiset.coe_add]
  abel

theorem moved_enter (r : Ring) (e : Enter) : Moved r (r.enter e) := by
  have posts : ∀ (posted : List (Nat × Int)) (r : Ring),
      Moved r (posted.foldl (fun r p => r.post p.1 p.2) r) := by
    intro posted
    induction posted with
    | nil => exact Moved.refl
    | cons p rest ih => exact fun r => (moved_post r p.1 p.2).trans (ih _)
  exact (moved_consume r e.consumed).trans (posts e.posted _)

/-- `r'` is `r` with one more entry outstanding. -/
structure Pushed (r : Ring) (entry : Sqe) (r' : Ring) : Prop where
  outstanding : r'.outstanding = entry ::ₘ r.outstanding
  drained : r'.drained = r.drained

theorem pushed_of_push {r r' : Ring} {entry : Sqe} (pushed : r.push entry = some r') :
    Pushed r entry r' := by
  unfold push at pushed
  split at pushed
  · cases pushed
  · cases pushed
    refine ⟨?_, rfl⟩
    simp only [outstanding, ← Multiset.coe_add, Multiset.coe_singleton, ← Multiset.singleton_add]
    abel

theorem Moved.pushed {a b c : Ring} {entry : Sqe} (moved : Moved a b) (pushed : Pushed b entry c) :
    Pushed a entry c :=
  ⟨by rw [pushed.outstanding, moved.outstanding], pushed.drained.trans moved.drained⟩

/-- Reading the first completion takes its entry out of the outstanding ones. -/
theorem outstanding_pop {r : Ring} {cqe : Cqe} {rest : List Cqe} (front : r.cq = cqe :: rest) :
    r.outstanding = cqe.sqe ::ₘ r.pop.outstanding := by
  simp only [outstanding, pop, front, List.tail_cons, List.map_cons, ← Multiset.cons_coe,
    ← Multiset.singleton_add]
  abel

theorem front_outstanding {r : Ring} {cqe : Cqe} {rest : List Cqe} (front : r.cq = cqe :: rest) :
    cqe.sqe ∈ r.outstanding := by
  rw [outstanding_pop front]
  exact Multiset.mem_cons_self _ _

theorem drained_pop {r : Ring} {cqe : Cqe} {rest : List Cqe} (front : r.cq = cqe :: rest) :
    r.pop.drained = r.drained ++ [cqe] := by
  simp [pop, front]

end Ring

namespace UringDriver

/-- Everything a push can do. -/
theorem makeRoomAndPush_cases {ring ring' : Ring} {entry : Sqe} {submit : Enter}
    {result : Except IoError Unit} (pushed : makeRoomAndPush ring entry submit = (result, ring')) :
    (∃ err, result = .error err ∧ Ring.Moved ring ring') ∨
      (result = .ok () ∧ Ring.Pushed ring entry ring') := by
  have moved : Ring.Moved ring (if ring.isFull then ring.enter submit else ring) := by
    split
    · exact Ring.moved_enter ring submit
    · exact .refl ring
  unfold makeRoomAndPush at pushed
  simp only at pushed
  split at pushed
  · cases pushed
    exact .inl ⟨_, rfl, moved⟩
  · split at pushed
    · cases pushed
      exact .inl ⟨_, rfl, moved⟩
    · rename_i ring'' hpush
      cases pushed
      exact .inr ⟨rfl, moved.pushed (Ring.pushed_of_push hpush)⟩

theorem pushEntry_cases {d d' : UringDriver} {entry : Sqe} {submit : Enter}
    {result : Except IoError Unit} (pushed : d.pushEntry entry submit = (result, d')) :
    (∃ err ring, result = .error err ∧ Ring.Moved d.ring ring ∧ d' = { d with ring := ring }) ∨
      (∃ ring, result = .ok () ∧ Ring.Pushed d.ring entry ring ∧
        d' = { d with ring := ring, pendingSubmissions := true }) := by
  unfold pushEntry at pushed
  split at pushed
  · rename_i err ring attempt
    cases pushed
    obtain ⟨-, -, moved⟩ | ⟨impossible, -⟩ := makeRoomAndPush_cases attempt
    · exact .inl ⟨err, ring, rfl, moved, rfl⟩
    · cases impossible
  · rename_i ring attempt
    cases pushed
    obtain ⟨_, impossible, _⟩ | ⟨_, grown⟩ := makeRoomAndPush_cases attempt
    · cases impossible
    · exact .inr ⟨ring, rfl, grown, rfl⟩

/-! ## Small steps -/

inductive RingStep where
  | enter (e : Enter)
  | post (i : Nat) (result : Int)
  | storePending (pending : Bool)
  | pushInterrupt
  | pushTimeout (nanos : Nat)
  | drain

def pushOwn (d : UringDriver) (entry : Sqe) : Option UringDriver :=
  (d.ring.push entry).map fun ring => { d with ring := ring }

def ringStep (d : UringDriver) : RingStep → Option UringDriver
  | .enter e => some { d with ring := d.ring.enter e }
  | .post i result => some { d with ring := d.ring.post i result }
  | .storePending pending => some { d with pendingSubmissions := pending }
  | .pushInterrupt => d.pushOwn interruptEntry
  | .pushTimeout nanos => d.pushOwn (timeoutEntry nanos)
  | .drain =>
      match d.ring.cq with
      | [] => none
      | cqe :: _ => some (d.drainNext cqe).driver

/-- The driver and the kernel at work between two calls of a client. -/
def background : Machine UringDriver RingStep where
  start := fun _ => True
  step := ringStep

/-- An entry whose key `drain_cq` recognises before it looks for a token. -/
def Reserved (entry : Sqe) : Prop := entry = interruptEntry ∨ ∃ nanos, entry = timeoutEntry nanos

/-- Everything a small step can do. -/
theorem ringStep_cases {d d' : UringDriver} {l : RingStep} (stepped : d.ringStep l = some d') :
    (∃ ring, Ring.Moved d.ring ring ∧ d' = { d with ring := ring }) ∨
      (∃ pending, d' = { d with pendingSubmissions := pending }) ∨
      (∃ entry ring, Reserved entry ∧ Ring.Pushed d.ring entry ring ∧ d' = { d with ring := ring }) ∨
      (∃ cqe rest, l = .drain ∧ d.ring.cq = cqe :: rest ∧ d' = (d.drainNext cqe).driver) := by
  have own : ∀ entry, Reserved entry → d.pushOwn entry = some d' →
      ∃ entry ring, Reserved entry ∧ Ring.Pushed d.ring entry ring ∧ d' = { d with ring := ring } := by
    intro entry reserved pushed
    obtain ⟨ring, grown, rfl⟩ := Option.map_eq_some_iff.mp pushed
    exact ⟨entry, ring, reserved, Ring.pushed_of_push grown, rfl⟩
  cases l with
  | enter e =>
      cases stepped
      exact .inl ⟨_, Ring.moved_enter d.ring e, rfl⟩
  | post i result =>
      cases stepped
      exact .inl ⟨_, Ring.moved_post d.ring i result, rfl⟩
  | storePending pending =>
      cases stepped
      exact .inr (.inl ⟨pending, rfl⟩)
  | pushInterrupt => exact .inr (.inr (.inl (own _ (.inl rfl) stepped)))
  | pushTimeout nanos => exact .inr (.inr (.inl (own _ (.inr ⟨nanos, rfl⟩) stepped)))
  | drain =>
      unfold ringStep at stepped
      simp only at stepped
      split at stepped
      · cases stepped
      · rename_i cqe rest front
        cases stepped
        exact .inr (.inr (.inr ⟨cqe, rest, rfl, front, rfl⟩))

/-! ## Whom a completion is for -/

/-- A reserved key touches neither table. -/
theorem drainNext_reserved {d : UringDriver} {cqe : Cqe} (reserved : Reserved cqe.sqe) :
    (d.drainNext cqe).driver = { d with ring := d.ring.pop } := by
  unfold drainNext drainCqe Cqe.userData
  obtain own | ⟨nanos, own⟩ := reserved
  · simp [own, interruptEntry]
  · rw [own]
    simp [timeoutEntry, U64_MAX]

theorem drainNext_poll {d : UringDriver} {cqe : Cqe} {token : Nat} {fd : Int} {mask : Nat}
    {r : PollRegistration} (small : token < TOKEN_LIMIT) (own : cqe.sqe = pollAddEntry token fd mask)
    (registered : d.registrations.get token = some (.poll r)) :
    d.drainNext cqe = ⟨(drainPoll r).1, false,
      { d with ring := d.ring.pop }.setPoll token (drainPoll r).2⟩ := by
  obtain ⟨below, tokenOf, kindOf⟩ := decode_encodePollKey small
  have notMax : encodePollKey token ≠ U64_MAX := by omega
  have notTimeout : encodePollKey token ≠ U64_MAX - 1 := by omega
  simp [drainNext, drainCqe, Cqe.userData, own, pollAddEntry, notMax, notTimeout, tokenOf, kindOf,
    registered, setPoll]

/-- The completion of a poll on a handle that is gone, or not in poll mode. -/
theorem drainNext_poll_stale {d : UringDriver} {cqe : Cqe} {token : Nat} {fd : Int} {mask : Nat}
    (small : token < TOKEN_LIMIT) (own : cqe.sqe = pollAddEntry token fd mask)
    (absent : ∀ r, d.registrations.get token ≠ some (.poll r)) :
    (d.drainNext cqe).driver = { d with ring := d.ring.pop } := by
  obtain ⟨below, tokenOf, kindOf⟩ := decode_encodePollKey small
  have notMax : encodePollKey token ≠ U64_MAX := by omega
  have notTimeout : encodePollKey token ≠ U64_MAX - 1 := by omega
  simp only [drainNext, drainCqe, Cqe.userData, own, pollAddEntry, notMax, notTimeout, tokenOf, kindOf,
    if_true, if_false]

theorem drainNext_operation {d : UringDriver} {cqe : Cqe} {token serial : Nat}
    (small : token < TOKEN_LIMIT) (own : cqe.sqe = ⟨encodeCompletionKey token, .operation serial⟩) :
    d.drainNext cqe = ⟨(d.completions.complete id token cqe.result).1, false,
      { d with ring := d.ring.pop
               completions := (d.completions.complete id token cqe.result).2 }⟩ := by
  obtain ⟨below, tokenOf, kindOf⟩ := decode_encodeCompletionKey small
  have notMax : encodeCompletionKey token ≠ U64_MAX := by omega
  have notTimeout : encodeCompletionKey token ≠ U64_MAX - 1 := by omega
  have notPoll : ¬ COMPLETION_KEY_KIND = POLL_KEY_KIND := by decide
  simp [drainNext, drainCqe, Cqe.userData, own, notMax, notTimeout, tokenOf, kindOf, notPoll]

/-! ## The functions of the source are runs of small steps -/

theorem makeRoomAndPush_runs {d : UringDriver} {ring : Ring} {entry : Sqe} {submit : Enter}
    {result : Except IoError Unit} {l : RingStep}
    (own : ∀ d : UringDriver, d.ringStep l = d.pushOwn entry)
    (pushed : makeRoomAndPush d.ring entry submit = (result, ring)) :
    background.Runs d { d with ring := ring } := by
  have entered : background.Runs d { d with ring := if d.ring.isFull then d.ring.enter submit else d.ring } := by
    split
    · exact .of_step (.enter submit) rfl
    · exact .refl d
  unfold makeRoomAndPush at pushed
  simp only at pushed
  split at pushed
  · cases pushed
    exact entered
  · split at pushed
    · cases pushed
      exact entered
    · rename_i ring' grown
      cases pushed
      refine entered.trans (.of_step l ?_)
      show UringDriver.ringStep _ l = _
      rw [own]
      simp [pushOwn, grown]

theorem submitInterrupt_runs {d d' : UringDriver} {submit : Enter}
    (submitted : d.submitInterrupt submit = some d') : background.Runs d d' := by
  unfold submitInterrupt pushEntry at submitted
  split at submitted
  · rename_i d'' pushed
    cases submitted
    split at pushed
    · cases pushed
    · rename_i ring attempt
      cases pushed
      have pushedRuns := makeRoomAndPush_runs (l := .pushInterrupt) (fun _ => rfl) attempt
      exact pushedRuns.trans (.of_step (.storePending true) rfl)
  · cases submitted

theorem pushWaitTimeout_runs {d : UringDriver} {waitForOne : Bool} {timeout : Option Nat}
    {room : Enter} {result : Except IoError Unit} {ring : Ring}
    (pushed : d.pushWaitTimeout waitForOne timeout room = (result, ring)) :
    background.Runs d { d with ring := ring } := by
  unfold pushWaitTimeout at pushed
  split at pushed
  · exact makeRoomAndPush_runs (l := .pushTimeout _) (fun _ => rfl) pushed
  · cases pushed
    exact .refl d

theorem submitPhase_runs (d : UringDriver) (waitForOne : Bool) (timeout : Option Nat)
    (env : CollectEnv) : background.Runs d (d.submitPhase waitForOne timeout env).2 := by
  unfold submitPhase
  split
  · split
    · rename_i pushed
      exact pushWaitTimeout_runs pushed
    · rename_i ring pushed
      have entered : background.Runs d { d with ring := ring.enter env.submit } :=
        (pushWaitTimeout_runs pushed).trans (.of_step (.enter env.submit) rfl)
      simp only
      split
      · exact entered
      · exact entered.trans (.of_step (.storePending _) rfl)
  · exact .of_step (.storePending false) rfl

theorem drainLoop_runs (n : Nat) (d : UringDriver) : background.Runs d (drainLoop n d).2.2 := by
  induction n generalizing d with
  | zero => exact .refl d
  | succ n ih =>
      unfold drainLoop
      split
      · exact .refl d
      · rename_i cqe rest front
        refine Machine.Runs.trans (.of_step .drain ?_) (ih _)
        show d.ringStep .drain = _
        simp only [ringStep, front]

theorem collectCompletions_runs {d : UringDriver} {waitForOne : Bool} {timeout : Option Nat}
    {env : CollectEnv} {c : Collected} (collected : d.collectCompletions waitForOne timeout env = some c) :
    background.Runs d c.driver := by
  have submitted := submitPhase_runs d waitForOne timeout env
  unfold collectCompletions at collected
  split at collected
  · rename_i err d' phase
    cases collected
    rwa [phase] at submitted
  · rename_i d' phase
    rw [phase] at submitted
    have drained : background.Runs d d'.drainCq.2.2 := submitted.trans (drainLoop_runs _ d')
    simp only at collected
    split at collected
    · obtain ⟨d'', interrupted, rfl⟩ := Option.map_eq_some_iff.mp collected
      exact drained.trans (submitInterrupt_runs interrupted)
    · cases collected
      exact drained

theorem finish_driver {c : Collected} {wakers : List Waker} {d : UringDriver}
    (finished : c.finish = some (wakers, d)) : d = c.driver := by
  unfold Collected.finish at finished
  split at finished
  · cases finished; rfl
  · split at finished
    · cases finished; rfl
    · cases finished

/-- `flush` is a run of small steps. -/
theorem flush_runs {d d' : UringDriver} {env : CollectEnv} {wakers : List Waker}
    (flushed : d.flush env = some (wakers, d')) : background.Runs d d' := by
  obtain ⟨c, collected, finished⟩ := Option.bind_eq_some_iff.mp flushed
  rw [finish_driver finished]
  exact collectCompletions_runs collected

/-- `wait` is a run of small steps. -/
theorem wait_runs {d d' : UringDriver} {timeout : Option Nat} {env : CollectEnv}
    {wakers : List Waker} (waited : d.wait timeout env = some (wakers, d')) : background.Runs d d' := by
  obtain ⟨c, collected, finished⟩ := Option.bind_eq_some_iff.mp waited
  rw [finish_driver finished]
  exact collectCompletions_runs collected

end UringDriver

end Vibeio.Driver
