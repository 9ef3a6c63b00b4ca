/-
# Driver.StalePolls -- polls that outlive their handle

A poll completion names a token, and a token is a slab index: once its handle is
deregistered the next handle may be given the same one, while the kernel still owes
completions of the polls of the first.  Whether those do any harm is the question here, for
the `PollAdd` entries of io_uring and the AFD polls of IOCP.

* Handles are told apart by the number of their registration, and every outstanding poll is
  remembered with the handle that asked for it.  Two equal entries of two handles cannot be
  told apart in the ring, so a step that reads one says whose it was, and any handle with
  such an entry outstanding may be meant.
* `Harmless`: reading a poll of another handle leaves the registration of its token alone.
* `PollsAlone`: nothing is asked of a handle while a poll of an earlier handle under its
  token is outstanding.
* `StaleBlank`: under a token with a stale poll nobody waits and nothing is armed.  A new
  handle is blank, and only `submit_poll` makes it anything else.
* `stale_polls_harmless`: in every run whose steps are `PollsAlone`, stale polls are
  harmless.  Otherwise they take the waiter and disarm the poll of the later handle.
-/
import Vibeio.Driver.PollWaiters
import Vibeio.Driver.UringOperations

namespace Vibeio.Driver

open Vibeio.Theory

set_option autoImplicit false

/-- `holder` is the handle last registered under a token, `issued` how many there have
been. -/
structure Numbering where
  holder : Nat → Nat
  issued : Nat

namespace Numbering

def new : Numbering := ⟨fun _ => 0, 0⟩

def register (n : Numbering) (token : Nat) : Numbering :=
  ⟨Function.update n.holder token n.issued, n.issued + 1⟩

end Numbering

/-! ## io_uring -/

namespace UringDriver

def isPollAdd (entry : Sqe) : Bool :=
  match entry.request with
  | .pollAdd _ _ => true
  | _ => false

/-- The `PollAdd` entries outstanding. -/
def pollEntries (r : Ring) : Multiset Sqe := r.outstanding.filter fun entry => isPollAdd entry = true

/-- The token `drain_cq` finds in the completion of an entry. -/
def tokenOf (entry : Sqe) : Nat := decodeToken entry.userData

/-- The driver, its handles, and the polls outstanding, each with its handle. -/
structure Handles where
  driver : UringDriver
  numbering : Numbering
  polls : Multiset (Sqe × Nat)

/-- A call or a small step of the driver, a call of a completion operation, or the reading
of one completion, which if it is a poll's is that of `owner`. -/
inductive HandleStep where
  | driver (k : DriverStep)
  | submitCompletion (serial : Nat) (waker : Waker) (env : SubmitEnv)
  | getCompletionResult (token : Nat)
  | setCompletionWaker (token : Nat) (waker : Waker)
  | ignoreCompletion (token : Nat) (data : IgnoredData)
  | drain (owner : Nat)

/-- The entry a `submit_poll` has pushed when it is done. -/
def pushedPoll (d : UringDriver) (token : Nat) (waker : Waker) (interest : Interest) (submit : Enter) :
    Option Sqe :=
  match d.registrations.get token with
  | some (.poll r) =>
      match (armPoll r waker interest).2, (d.submitPoll token waker interest submit).1 with
      | some (fd, mask), .ok () => some (pollAddEntry token fd mask)
      | _, _ => none
  | _ => none

namespace Handles

/-- What a call does to the handles and their polls. -/
def called (s : Handles) (d : UringDriver) : DriverStep → Handles
  | .register _ _ _ key => { s with driver := d, numbering := s.numbering.register key }
  | .submitPoll token waker interest submit =>
      match s.driver.pushedPoll token waker interest submit with
      | some entry => { s with driver := d, polls := (entry, s.numbering.holder token) ::ₘ s.polls }
      | none => { s with driver := d }
  | _ => { s with driver := d }

def step (s : Handles) : HandleStep → Option Handles
  | .driver k =>
      match k with
      | .background .drain => none
      | k => (s.driver.driverStep k).map fun d => s.called d k
  | .submitCompletion serial waker env =>
      if s.driver.slotFits env then
        some { s with driver := (s.driver.submitCompletion serial waker env.key env.built env.submit).2 }
      else none
  | .getCompletionResult token => some { s with driver := (s.driver.getCompletionResult token).2 }
  | .setCompletionWaker token waker => some { s with driver := s.driver.setCompletionWaker token waker }
  | .ignoreCompletion token data => some { s with driver := s.driver.ignoreCompletion token data }
  | .drain owner =>
      match s.driver.ring.cq with
      | [] => none
      | cqe :: _ =>
          if isPollAdd cqe.sqe then
            if (cqe.sqe, owner) ∈ s.polls then
              some { s with driver := (s.driver.drainNext cqe).driver, polls := s.polls.erase (cqe.sqe, owner) }
            else none
          else some { s with driver := (s.driver.drainNext cqe).driver }

def Initial (s : Handles) : Prop :=
  (∃ entries extArg submit, UringDriver.new entries extArg submit = some s.driver) ∧
    s.numbering = .new ∧ s.polls = 0

def machine : Machine Handles HandleStep where
  start := Initial
  step := step

/-- The completion of a poll of a handle that is not the one registered under its token now
leaves the registration of that token as it is. -/
def Harmless (s : Handles) : HandleStep → Prop
  | .drain owner => ∀ cqe rest, s.driver.ring.cq = cqe :: rest → (cqe.sqe, owner) ∈ s.polls →
      owner ≠ s.numbering.holder (tokenOf cqe.sqe) →
      (s.driver.drainNext cqe).driver.registrations.get (tokenOf cqe.sqe) =
        s.driver.registrations.get (tokenOf cqe.sqe)
  | _ => True

/-- No poll of an earlier handle is outstanding under the token. -/
def FreeOfStale (s : Handles) (token : Nat) : Prop :=
  ∀ e ∈ s.polls, tokenOf e.1 = token → e.2 = s.numbering.holder token

def PollsAlone (s : Handles) : HandleStep → Prop
  | .driver (.submitPoll token _ _ _) => s.FreeOfStale token
  | _ => True

end Handles

theorem pollEntries_of_moved {r r' : Ring} (moved : Ring.Moved r r') : pollEntries r' = pollEntries r := by
  rw [pollEntries, pollEntries, moved.outstanding]

theorem pollEntries_of_pushed {r r' : Ring} {entry : Sqe} (pushed : Ring.Pushed r entry r') :
    pollEntries r' = if isPollAdd entry then entry ::ₘ pollEntries r else pollEntries r := by
  rw [pollEntries, pollEntries, pushed.outstanding, Multiset.filter_cons]
  split <;> simp

theorem pollEntries_pop {r : Ring} {cqe : Cqe} {rest : List Cqe} (front : r.cq = cqe :: rest) :
    pollEntries r = if isPollAdd cqe.sqe then cqe.sqe ::ₘ pollEntries r.pop else pollEntries r.pop := by
  rw [pollEntries, pollEntries, Ring.outstanding_pop front, Multiset.filter_cons]
  split <;> simp

/-- Nobody waits, and nothing is armed. -/
def Blank : HandleRegistration → Prop
  | .completion => True
  | .poll r => (r.waiterRead = none ∧ r.pollReadArmed = false) ∧ r.waiterWrite = none ∧ r.pollWriteArmed = false

/-- A blank registration has nothing a completion could take. -/
theorem drainPoll_blank {r : PollRegistration} (blank : Blank (.poll r)) : (drainPoll r).2 = r := by
  obtain ⟨fd, mask, waiterRead, readArmed, waiterWrite, writeArmed⟩ := r
  obtain ⟨⟨noReader, readOff⟩, noWriter, writeOff⟩ := blank
  simp only at noReader readOff noWriter writeOff
  subst noReader readOff noWriter writeOff
  unfold drainPoll
  simp only
  split
  · split <;> rfl
  · rfl

/-- Reading a completion changes the registration of its token, if it is in poll mode, and no
other. -/
theorem drainNext_registrations (d : UringDriver) (cqe : Cqe) (j : Nat) :
    (d.drainNext cqe).driver.registrations.get j = d.registrations.get j ∨
      ∃ r, j = tokenOf cqe.sqe ∧ d.registrations.get j = some (.poll r) ∧
        (d.drainNext cqe).driver.registrations.get j = some (.poll (drainPoll r).2) := by
  unfold drainNext drainCqe
  simp only
  split
  · exact .inl rfl
  split
  · exact .inl rfl
  split
  · split
    · rename_i r registered
      by_cases here : j = decodeToken cqe.userData
      · subst here
        exact .inr ⟨r, rfl, registered, Slab.get_insert_self _ _ _⟩
      · exact .inl ((Slab.get_insert _ _ _ _).trans (if_neg here))
    · exact .inl rfl
  · exact .inl rfl

theorem drainNext_carries (d : UringDriver) (cqe : Cqe) :
    Slab.Carries Blank d.registrations (d.drainNext cqe).driver.registrations := by
  intro j h registered
  obtain same | ⟨r, -, before, after⟩ := drainNext_registrations d cqe j
  · rw [same] at registered
    exact ⟨h, registered, id⟩
  · rw [after] at registered
    cases registered
    exact ⟨.poll r, before, fun blank => (drainPoll_blank blank).symm ▸ blank⟩

theorem reregisterHandle_carries (d : UringDriver) (token : Nat) (interest : Interest) :
    Slab.Carries Blank d.registrations (d.reregisterHandle token interest).2.registrations := by
  unfold reregisterHandle
  split
  · exact .refl _
  · rename_i r registered
    exact .insert registered fun blank => blank
  · exact .refl _

theorem deregisterHandle_carries (d : UringDriver) (token : Nat) :
    Slab.Carries Blank d.registrations (d.deregisterHandle token).2.registrations := by
  unfold deregisterHandle
  split
  · exact .refl _
  · exact .remove _ _

theorem drainNext_ring (d : UringDriver) (cqe : Cqe) : (d.drainNext cqe).driver.ring = d.ring.pop := by
  unfold drainNext drainCqe
  simp only
  split
  · rfl
  split
  · rfl
  split
  · split <;> rfl
  · rfl

theorem submitPoll_frame (d : UringDriver) {token j : Nat} (waker : Waker) (interest : Interest) (submit : Enter)
    (other : j ≠ token) : (d.submitPoll token waker interest submit).2.registrations.get j = d.registrations.get j := by
  unfold submitPoll
  split
  · rfl
  · rfl
  · rename_i r registered
    simp only
    split
    · exact (get_setPoll _ _ _ _).trans (if_neg other)
    · split
      · rename_i d' pushed
        obtain ⟨_, _, impossible, -⟩ | ⟨ring, -, -, rfl⟩ := pushEntry_cases pushed
        · cases impossible
        · exact (get_setPoll _ _ _ _).trans (if_neg other)
      · rename_i err d' pushed
        obtain ⟨_, ring, -, -, rfl⟩ | ⟨_, impossible, -⟩ := pushEntry_cases pushed
        · rw [get_setPoll, if_neg other]
          exact (get_setPoll _ _ _ _).trans (if_neg other)
        · cases impossible

/-- What a `submit_poll` adds to the ring. -/
theorem submitPoll_pushed (d : UringDriver) (token : Nat) (waker : Waker) (interest : Interest) (submit : Enter) :
    (d.pushedPoll token waker interest submit = none ∧
        Ring.Moved d.ring (d.submitPoll token waker interest submit).2.ring) ∨
      ∃ r fd mask, d.registrations.get token = some (.poll r) ∧
        d.pushedPoll token waker interest submit = some (pollAddEntry token fd mask) ∧
        Ring.Pushed d.ring (pollAddEntry token fd mask) (d.submitPoll token waker interest submit).2.ring := by
  unfold pushedPoll submitPoll
  cases registered : d.registrations.get token with
  | none => exact .inl ⟨rfl, .refl _⟩
  | some h =>
      cases h with
      | completion => exact .inl ⟨rfl, .refl _⟩
      | poll r =>
          simp only
          cases spec : (armPoll r waker interest).2 with
          | none => exact .inl ⟨rfl, .refl _⟩
          | some pair =>
              obtain ⟨fd, mask⟩ := pair
              simp only
              cases pushed : (d.setPoll token (armPoll r waker interest).1).pushPollAdd token fd mask submit with
              | mk answer d' =>
                  obtain ⟨err, ring, rfl, moved, rfl⟩ | ⟨ring, rfl, grown, rfl⟩ := pushEntry_cases pushed
                  · exact .inl ⟨rfl, moved⟩
                  · exact .inr ⟨r, fd, mask, rfl, rfl, grown⟩

namespace Handles

variable {s s' : Handles}

/-- Every poll that was pushed and not read yet is remembered, once. -/
structure Kept (s : Handles) : Prop where
  keys : KeysInvariant s.driver
  mirrored : s.polls.map Prod.fst = pollEntries s.driver.ring

/-- A poll of an earlier handle is outstanding under the token. -/
def Stale (s : Handles) (token : Nat) : Prop :=
  ∃ e ∈ s.polls, tokenOf e.1 = token ∧ e.2 ≠ s.numbering.holder token

def StaleBlank (s : Handles) : Prop := s.driver.registrations.AllOn s.Stale Blank

/-- Everything a step can do. -/
theorem step_cases {l : HandleStep} (stepped : s.step l = some s') :
    (∃ k d, l = .driver k ∧ k ≠ .background .drain ∧ s.driver.driverStep k = some d ∧ s' = s.called d k) ∨
      (∃ serial waker env, l = .submitCompletion serial waker env ∧ s.driver.slotFits env = true ∧
        s' = { s with driver := (s.driver.submitCompletion serial waker env.key env.built env.submit).2 }) ∨
      (∃ completions, s' = { s with driver := { s.driver with completions := completions } }) ∨
      (∃ owner cqe rest, l = .drain owner ∧ s.driver.ring.cq = cqe :: rest ∧
        ((isPollAdd cqe.sqe = true ∧ (cqe.sqe, owner) ∈ s.polls ∧ s' = { s with
            driver := (s.driver.drainNext cqe).driver, polls := s.polls.erase (cqe.sqe, owner) }) ∨
          (isPollAdd cqe.sqe = false ∧ s' = { s with driver := (s.driver.drainNext cqe).driver }))) := by
  cases l with
  | driver k =>
      simp only [step] at stepped
      split at stepped
      · cases stepped
      · rename_i notDrain
        obtain ⟨d, ran, rfl⟩ := Option.map_eq_some_iff.mp stepped
        exact .inl ⟨k, d, rfl, notDrain, ran, rfl⟩
  | submitCompletion serial waker env =>
      simp only [step] at stepped
      split at stepped
      · rename_i fits
        cases stepped
        exact .inr (.inl ⟨serial, waker, env, rfl, fits, rfl⟩)
      · cases stepped
  | getCompletionResult token =>
      cases stepped
      exact .inr (.inr (.inl ⟨_, rfl⟩))
  | setCompletionWaker token waker =>
      cases stepped
      exact .inr (.inr (.inl ⟨_, rfl⟩))
  | ignoreCompletion token data =>
      cases stepped
      exact .inr (.inr (.inl ⟨_, rfl⟩))
  | drain owner =>
      simp only [step] at stepped
      split at stepped
      · cases stepped
      · rename_i cqe rest front
        refine .inr (.inr (.inr ⟨owner, cqe, rest, rfl, front, ?_⟩))
        split at stepped
        · rename_i poll
          split at stepped
          · rename_i known
            cases stepped
            exact .inl ⟨poll, known, rfl⟩
          · cases stepped
        · rename_i notPoll
          cases stepped
          exact .inr ⟨by simpa using notPoll, rfl⟩

/-! ### Every poll is remembered -/

theorem isPollAdd_reserved {entry : Sqe} (reserved : Reserved entry) : isPollAdd entry = false := by
  obtain rfl | ⟨nanos, rfl⟩ := reserved <;> rfl

/-- A step of the driver that reads nothing. -/
theorem mirrored_called {k : DriverStep} {d : UringDriver} (kept : Kept s) (notDrain : k ≠ .background .drain)
    (ran : s.driver.driverStep k = some d) :
    (s.called d k).polls.map Prod.fst = pollEntries d.ring := by
  cases k with
  | background l =>
      obtain ⟨ring, moved, rfl⟩ | ⟨pending, rfl⟩ | ⟨entry, ring, reserved, grown, rfl⟩ | ⟨_, _, drains, -⟩ :=
        ringStep_cases ran
      · exact kept.mirrored.trans (pollEntries_of_moved moved).symm
      · exact kept.mirrored
      · refine kept.mirrored.trans ?_
        rw [pollEntries_of_pushed grown, isPollAdd_reserved reserved]
        rfl
      · exact absurd (congrArg DriverStep.background drains) notDrain
  | submitPoll token waker interest submit =>
      cases ran
      simp only [called]
      obtain ⟨nothing, moved⟩ | ⟨r, fd, mask, -, entry, grown⟩ :=
        submitPoll_pushed s.driver token waker interest submit
      · rw [nothing]
        exact kept.mirrored.trans (pollEntries_of_moved moved).symm
      · rw [entry, pollEntries_of_pushed grown, ← kept.mirrored]
        exact Multiset.map_cons _ _ _
  | register fd interest mode key =>
      simp only [driverStep] at ran
      split at ran
      · cases ran
        exact kept.mirrored
      · cases ran
  | reregister token interest =>
      cases ran
      simp only [called]
      unfold reregisterHandle
      split <;> exact kept.mirrored
  | deregister token =>
      cases ran
      simp only [called]
      unfold deregisterHandle
      split <;> exact kept.mirrored

theorem Kept.step {l : HandleStep} (kept : Kept s) (stepped : s.step l = some s') : Kept s' := by
  obtain ⟨k, d, rfl, notDrain, ran, rfl⟩ | ⟨serial, waker, env, rfl, fits, rfl⟩ | ⟨completions, rfl⟩ |
    ⟨owner, cqe, rest, rfl, front, read⟩ := step_cases stepped
  · have driver_eq : (s.called d k).driver = d := by
      unfold called
      split
      · rfl
      · split <;> rfl
      · rfl
    constructor
    · rw [driver_eq]
      exact kept.keys.driverStep ran
    · rw [driver_eq]
      exact mirrored_called kept notDrain ran
  · refine ⟨kept.keys.submitCompletion fits, ?_⟩
    obtain ⟨err, ring, moved, submitted⟩ | ⟨ring, grown, submitted⟩ :=
      submitCompletion_cases s.driver serial waker env
    · rw [submitted]
      exact kept.mirrored.trans (pollEntries_of_moved moved).symm
    · rw [submitted]
      exact kept.mirrored.trans (pollEntries_of_pushed grown).symm
  · exact ⟨⟨kept.keys.small, kept.keys.keyed⟩, kept.mirrored⟩
  · have ran : s.driver.ringStep .drain = some (s.driver.drainNext cqe).driver := by
      simp only [ringStep, front]
    have keys := kept.keys.ringStep ran
    have ring_eq : (s.driver.drainNext cqe).driver.ring = s.driver.ring.pop := drainNext_ring s.driver cqe
    have before := kept.mirrored
    rw [pollEntries_pop front] at before
    obtain ⟨poll, known, rfl⟩ | ⟨notPoll, rfl⟩ := read
    · refine ⟨keys, ?_⟩
      rw [if_pos poll, ← Multiset.cons_erase known, Multiset.map_cons] at before
      rw [ring_eq]
      exact (Multiset.cons_inj_right _).mp before
    · refine ⟨keys, ?_⟩
      rw [if_neg (by simp [notPoll])] at before
      rw [ring_eq]
      exact before

/-- Whatever completion comes next, it can be read: some handle is known to have asked
for it. -/
theorem drain_possible {cqe : Cqe} {rest : List Cqe} (kept : Kept s) (front : s.driver.ring.cq = cqe :: rest) :
    ∃ owner, (s.step (.drain owner)).isSome := by
  cases poll : isPollAdd cqe.sqe with
  | false => exact ⟨0, by simp [step, front, poll]⟩
  | true =>
      have member : cqe.sqe ∈ s.polls.map Prod.fst := by
        rw [kept.mirrored, pollEntries_pop front, if_pos poll]
        exact Multiset.mem_cons_self _ _
      obtain ⟨⟨sqe, owner⟩, known, rfl⟩ := Multiset.mem_map.mp member
      exact ⟨owner, by simp [step, front, poll, known]⟩

/-! ### Stale polls meet blank registrations -/

/-- The poll that is pushed is the handle's own, and there is no other under its token. -/
theorem StaleBlank.submitPoll {token : Nat} (blank : StaleBlank s) (kept : Kept s) (waker : Waker)
    (interest : Interest) (submit : Enter) (alone : s.FreeOfStale token) :
    StaleBlank (s.called (s.driver.submitPoll token waker interest submit).2
      (.submitPoll token waker interest submit)) := by
  have own : ∀ e ∈ (s.called (s.driver.submitPoll token waker interest submit).2
      (.submitPoll token waker interest submit)).polls,
      e ∈ s.polls ∨ (tokenOf e.1 = token ∧ e.2 = s.numbering.holder token) := by
    intro e member
    simp only [called] at member
    obtain ⟨nothing, -⟩ | ⟨r, fd, mask, registered, entry, -⟩ :=
      submitPoll_pushed s.driver token waker interest submit
    · rw [nothing] at member
      exact .inl member
    · rw [entry] at member
      obtain rfl | old := Multiset.mem_cons.mp member
      · exact .inr ⟨(decode_encodePollKey (kept.keys.small token _ registered)).2.1, rfl⟩
      · exact .inl old
  have numbering : (s.called (s.driver.submitPoll token waker interest submit).2
      (.submitPoll token waker interest submit)).numbering = s.numbering := by
    simp only [called]
    split <;> rfl
  have driver : (s.called (s.driver.submitPoll token waker interest submit).2
      (.submitPoll token waker interest submit)).driver = (s.driver.submitPoll token waker interest submit).2 := by
    simp only [called]
    split <;> rfl
  unfold StaleBlank
  rw [driver]
  refine blank.except token (fun j other stale => ?_)
    (fun j other => submitPoll_frame s.driver waker interest submit other) fun stale => ?_
  · obtain ⟨e, member, here, later⟩ := stale
    rw [numbering] at later
    obtain old | ⟨mine, -⟩ := own e member
    · exact ⟨e, old, here, later⟩
    · exact absurd (here.symm.trans mine) other
  · obtain ⟨e, member, here, later⟩ := stale
    rw [numbering] at later
    obtain old | ⟨-, holder⟩ := own e member
    · exact absurd (alone e old here) later
    · exact absurd holder later

/-- A new handle is blank, whatever is still outstanding under its token. -/
theorem StaleBlank.register {fd : Int} {interest : Interest} {mode : RegistrationMode} {key : Nat}
    (blank : StaleBlank s) :
    StaleBlank (s.called (s.driver.registerHandleWithMode fd interest mode key).2
      (.register fd interest mode key)) := by
  refine blank.except key (fun j other stale => ?_) (fun j other => ?_) fun _ h registered => ?_
  · obtain ⟨e, member, here, later⟩ := stale
    refine ⟨e, member, here, ?_⟩
    simpa only [called, Numbering.register, Function.update_of_ne other] using later
  · exact (Slab.get_insert _ _ _ _).trans (if_neg other)
  · simp only [called, registerHandleWithMode, Slab.get_insert_self, Option.some.injEq] at registered
    subst registered
    cases mode with
    | completion => trivial
    | poll => exact ⟨⟨rfl, rfl⟩, rfl, rfl⟩

theorem StaleBlank.step {l : HandleStep} (blank : StaleBlank s) (kept : Kept s) (alone : s.PollsAlone l)
    (stepped : s.step l = some s') : StaleBlank s' := by
  obtain ⟨k, d, rfl, notDrain, ran, rfl⟩ | ⟨serial, waker, env, rfl, -, rfl⟩ | ⟨completions, rfl⟩ |
    ⟨owner, cqe, rest, rfl, front, read⟩ := step_cases stepped
  · cases k with
    | background l =>
        obtain ⟨ring, -, rfl⟩ | ⟨pending, rfl⟩ | ⟨entry, ring, -, -, rfl⟩ | ⟨_, _, drains, -⟩ := ringStep_cases ran
        · exact blank
        · exact blank
        · exact blank
        · exact absurd (congrArg DriverStep.background drains) notDrain
    | submitPoll token waker interest submit =>
        cases ran
        exact blank.submitPoll kept waker interest submit alone
    | register fd interest mode key =>
        simp only [driverStep] at ran
        split at ran
        · cases ran
          exact blank.register
        · cases ran
    | reregister token interest =>
        cases ran
        exact blank.carries (fun _ stale => stale) (reregisterHandle_carries _ _ _)
    | deregister token =>
        cases ran
        exact blank.carries (fun _ stale => stale) (deregisterHandle_carries _ _)
  · refine blank.carries (fun _ stale => stale) ?_
    obtain ⟨_, _, -, submitted⟩ | ⟨_, -, submitted⟩ := submitCompletion_cases s.driver serial waker env
    · rw [submitted]
      exact .refl _
    · rw [submitted]
      exact .refl _
  · exact blank
  · obtain ⟨-, -, rfl⟩ | ⟨-, rfl⟩ := read
    · refine blank.carries (fun token stale => ?_) (drainNext_carries _ _)
      obtain ⟨e, member, stays⟩ := stale
      exact ⟨e, Multiset.mem_of_mem_erase member, stays⟩
    · exact blank.carries (fun _ stale => stale) (drainNext_carries _ _)

theorem StaleBlank.harmless (blank : StaleBlank s) (l : HandleStep) : s.Harmless l := by
  unfold Harmless
  split
  · intro cqe rest _ known stale
    obtain same | ⟨r, -, before, after⟩ := drainNext_registrations s.driver cqe (tokenOf cqe.sqe)
    · exact same
    · rw [after, before, drainPoll_blank (blank _ ⟨_, known, rfl, stale⟩ _ before)]
  · trivial

theorem kept_initial (initial : Initial s) : Kept s := by
  obtain ⟨⟨entries, extArg, submit, created⟩, -, none⟩ := initial
  refine ⟨keysInvariant_new created, ?_⟩
  rw [none, Multiset.map_zero]
  refine (Multiset.filter_eq_nil.mpr fun entry member poll => ?_).symm
  rw [isPollAdd_reserved ((freshHandles_new created).quiet entry member)] at poll
  cases poll

theorem staleBlank_initial (initial : Initial s) : StaleBlank s := by
  rintro token ⟨e, member, -⟩
  rw [initial.2.2] at member
  exact absurd member (Multiset.notMem_zero e)

/-- Over every run whose steps poll alone. -/
theorem harmless_of_pollsAlone {labels : List HandleStep} (initial : Initial s)
    (alone : machine.AllSteps PollsAlone s labels) : machine.AllSteps Harmless s labels := by
  refine Machine.allSteps_of_allSteps (I := fun s => Kept s ∧ StaleBlank s) ?_ ?_
    ⟨kept_initial initial, staleBlank_initial initial⟩ alone
  · rintro s l s' ⟨kept, blank⟩ alone stepped
    exact ⟨kept.step stepped, blank.step kept alone stepped⟩
  · rintro s l ⟨-, blank⟩ -
    exact blank.harmless l

end Handles

end UringDriver

/-! ## IOCP -/

namespace IocpDriver

/-- The driver, its handles, and whose an AFD poll is, by its poll token.  A poll token is
in use until its packet is processed. -/
structure Handles where
  driver : IocpDriver
  numbering : Numbering
  owner : Nat → Nat

inductive HandleStep where
  | driver (k : DriverStep)
  | submitCompletion (serial : Nat) (waker : Waker) (env : SubmitEnv)
  | getCompletionResult (token : Nat)
  | setCompletionWaker (token : Nat) (waker : Waker)
  | ignoreCompletion (token : Nat) (data : IgnoredData)

namespace Handles

def called (s : Handles) (d : IocpDriver) : DriverStep → Handles
  | .register interest mode env =>
      match (s.driver.registerHandleWithMode interest mode env).1 with
      | .ok _ => { s with driver := d, numbering := s.numbering.register env.key }
      | .error _ => { s with driver := d }
  | .submitPoll token _ _ env =>
      { s with driver := d, owner := Function.update s.owner env.key (s.numbering.holder token) }
  | _ => { s with driver := d }

/-- The slabs hand out vacant entries. -/
def fits (d : IocpDriver) : DriverStep → Bool
  | .register _ _ env => (d.registrations.get env.key).isNone
  | .submitPoll _ _ _ env => (d.pollOps.get env.key).isNone
  | _ => true

def step (s : Handles) : HandleStep → Option Handles
  | .driver k => if fits s.driver k then (s.driver.driverStep k).map fun d => s.called d k else none
  | .submitCompletion serial waker env => some { s with driver := (s.driver.submitCompletion serial waker env).2 }
  | .getCompletionResult token => some { s with driver := (s.driver.getCompletionResult token).2 }
  | .setCompletionWaker token waker => some { s with driver := s.driver.setCompletionWaker token waker }
  | .ignoreCompletion token data => some { s with driver := s.driver.ignoreCompletion token data }

def Initial (s : Handles) : Prop := s.driver = IocpDriver.new ∧ s.numbering = .new

def machine : Machine Handles HandleStep where
  start := Initial
  step := step

def Harmless (s : Handles) : HandleStep → Prop
  | .driver .process => ∀ entry rest pollToken events op, s.driver.port.queue = entry :: rest →
      entry.request = .afdPoll pollToken events → s.driver.pollOps.get pollToken = some op →
      s.owner pollToken ≠ s.numbering.holder op.registrationToken →
      (s.driver.processNext entry).2.registrations.get op.registrationToken =
        s.driver.registrations.get op.registrationToken
  | _ => True

def FreeOfStale (s : Handles) (token : Nat) : Prop :=
  ∀ pollToken op, s.driver.pollOps.get pollToken = some op → op.registrationToken = token →
    s.owner pollToken = s.numbering.holder token

def PollsAlone (s : Handles) : HandleStep → Prop
  | .driver (.submitPoll token _ _ _) => s.FreeOfStale token
  | _ => True

end Handles

/-- Nobody waits, and no poll is armed. -/
def Blank : Iocp.HandleRegistration → Prop
  | .completion => True
  | .poll r => r.waiter = none ∧ r.pollToken = none

/-- Processing a packet ends at most its own poll. -/
theorem processNext_pollOps (d : IocpDriver) (entry : Iocp.Entry) {pollToken : Nat} {op : Iocp.PollOp}
    (found : (d.processNext entry).2.pollOps.get pollToken = some op) : d.pollOps.get pollToken = some op := by
  have removed : ∀ key, (d.pollOps.remove key).get pollToken = some op → d.pollOps.get pollToken = some op := by
    intro key found
    rw [Slab.get_remove] at found
    split at found
    · cases found
    · exact found
  unfold processNext processEntry at found
  simp only at found
  split at found
  · exact found
  split at found
  · split at found
    · exact found
    · split at found
      · exact removed _ found
      · split at found <;> exact removed _ found
  · split at found <;> exact found

/-- It changes at most one registration, and a blank one not at all. -/
theorem processNext_registrations (d : IocpDriver) (entry : Iocp.Entry) (j : Nat) :
    (d.processNext entry).2.registrations.get j = d.registrations.get j ∨
      ∃ r q, d.registrations.get j = some (.poll r) ∧
        (d.processNext entry).2.registrations.get j = some (.poll q) ∧ (Blank (.poll r) → q = r) := by
  unfold processNext processEntry
  simp only
  split
  · exact .inl rfl
  split
  · split
    · exact .inl rfl
    · split
      · exact .inl rfl
      · rename_i token _
        split
        · rename_i r registered
          by_cases here : j = token
          · subst here
            refine .inr ⟨r, _, registered, Slab.get_insert_self _ _ _, fun blank => ?_⟩
            obtain ⟨socket, waiter, interest, pollToken⟩ := r
            obtain ⟨noWaiter, noPoll⟩ := blank
            simp only at noWaiter noPoll
            subst noWaiter noPoll
            simp
          · exact .inl ((Slab.get_insert _ _ _ _).trans (if_neg here))
        · exact .inl rfl
  · split
    · exact .inl rfl
    · exact .inl rfl

theorem processNext_carries (d : IocpDriver) (entry : Iocp.Entry) :
    Slab.Carries Blank d.registrations (d.processNext entry).2.registrations := by
  intro j h registered
  obtain same | ⟨r, q, before, after, stays⟩ := processNext_registrations d entry j
  · rw [same] at registered
    exact ⟨h, registered, id⟩
  · rw [after] at registered
    cases registered
    exact ⟨.poll r, before, fun blank => (stays blank).symm ▸ blank⟩

theorem reregisterHandle_carries (d : IocpDriver) (token : Nat) (interest : Interest) :
    Slab.Carries Blank d.registrations (d.reregisterHandle token interest).2.registrations := by
  unfold reregisterHandle
  split
  · exact .refl _
  · rename_i r registered
    exact .insert registered fun blank => blank
  · exact .refl _

theorem reregisterHandle_pollOps (d : IocpDriver) (token : Nat) (interest : Interest) :
    (d.reregisterHandle token interest).2.pollOps = d.pollOps := by
  unfold reregisterHandle
  split <;> rfl

theorem deregisterHandle_carries (d : IocpDriver) (token : Nat) :
    Slab.Carries Blank d.registrations (d.deregisterHandle token).2.registrations := by
  unfold deregisterHandle
  split
  · exact .refl _
  · exact .remove _ _

theorem deregisterHandle_pollOps (d : IocpDriver) (token : Nat) :
    (d.deregisterHandle token).2.pollOps = d.pollOps := by
  unfold deregisterHandle
  split <;> rfl

theorem submitCompletion_frame (d : IocpDriver) (serial : Nat) (waker : Waker) (env : SubmitEnv) :
    (d.submitCompletion serial waker env).2.pollOps = d.pollOps ∧
      (d.submitCompletion serial waker env).2.registrations = d.registrations := by
  unfold submitCompletion
  simp only
  split
  · exact ⟨rfl, rfl⟩
  · exact ⟨rfl, rfl⟩

/-- A registration that succeeds is blank, one that fails is taken back. -/
theorem registerHandleWithMode_cases {d : IocpDriver} {env : RegisterEnv} (interest : Interest)
    (mode : RegistrationMode) (vacant : d.registrations.get env.key = none) :
    (d.registerHandleWithMode interest mode env).2.pollOps = d.pollOps ∧
      ((∃ err, (d.registerHandleWithMode interest mode env).1 = .error err ∧
          (d.registerHandleWithMode interest mode env).2.registrations = d.registrations) ∨
        ∃ h, (d.registerHandleWithMode interest mode env).1 = .ok env.key ∧
          (d.registerHandleWithMode interest mode env).2.registrations = d.registrations.insert env.key h ∧
          Blank h) := by
  unfold registerHandleWithMode
  cases mode with
  | completion =>
      cases env.associated with
      | error err => exact ⟨rfl, .inl ⟨err, rfl, Slab.remove_insert vacant _⟩⟩
      | ok _ => exact ⟨rfl, .inr ⟨.completion, rfl, rfl, trivial⟩⟩
  | poll =>
      cases env.socket with
      | error err => exact ⟨rfl, .inl ⟨err, rfl, rfl⟩⟩
      | ok socket =>
          obtain ⟨afd, frame⟩ := d.ensureAfdHandle_frame env.opened
          simp only
          cases opened : d.ensureAfdHandle env.opened with
          | mk answer d' =>
              rw [opened] at frame
              cases frame
              cases answer with
              | error err => exact ⟨rfl, .inl ⟨err, rfl, rfl⟩⟩
              | ok _ =>
                  exact ⟨rfl, .inr ⟨_, rfl, rfl, rfl, rfl⟩⟩

namespace Handles

variable {s s' : Handles}

def Stale (s : Handles) (token : Nat) : Prop :=
  ∃ pollToken op, s.driver.pollOps.get pollToken = some op ∧ op.registrationToken = token ∧
    s.owner pollToken ≠ s.numbering.holder token

def StaleBlank (s : Handles) : Prop := s.driver.registrations.AllOn s.Stale Blank

/-- Nothing is asked for and nobody new comes. -/
theorem StaleBlank.quiet {d : IocpDriver} (blank : StaleBlank s)
    (pollOps : ∀ pollToken op, d.pollOps.get pollToken = some op → s.driver.pollOps.get pollToken = some op)
    (carries : Slab.Carries Blank s.driver.registrations d.registrations) :
    StaleBlank { s with driver := d } := by
  refine blank.carries (fun token stale => ?_) carries
  obtain ⟨pollToken, op, found, stays⟩ := stale
  exact ⟨pollToken, op, pollOps pollToken op found, stays⟩

theorem StaleBlank.submitPoll {token : Nat} {env : ArmEnv} (blank : StaleBlank s) (waker : Waker)
    (interest : Interest) (vacant : s.driver.pollOps.get env.key = none) (alone : s.FreeOfStale token) :
    StaleBlank { s with
      driver := (s.driver.submitPoll token waker interest env).2
      owner := Function.update s.owner env.key (s.numbering.holder token) } := by
  obtain ⟨⟨answer, d⟩, submitted⟩ : ∃ pair, s.driver.submitPoll token waker interest env = pair := ⟨_, rfl⟩
  rw [submitted]
  -- an old poll, with the owner it had, or the one that was armed now
  have old : (∀ pollToken op, d.pollOps.get pollToken = some op →
        (pollToken ≠ env.key ∧ s.driver.pollOps.get pollToken = some op) ∨
          (pollToken = env.key ∧ op.registrationToken = token)) ∧
      ∀ j, j ≠ token → d.registrations.get j = s.driver.registrations.get j := by
    have kept : d.pollOps = s.driver.pollOps → ∀ pollToken op, d.pollOps.get pollToken = some op →
        (pollToken ≠ env.key ∧ s.driver.pollOps.get pollToken = some op) ∨
          (pollToken = env.key ∧ op.registrationToken = token) := by
      intro same pollToken op found
      rw [same] at found
      refine .inl ⟨?_, found⟩
      rintro rfl
      rw [vacant] at found
      cases found
    obtain ⟨-, -, -, pollOps, same | ⟨r, q, -, -, -, changed⟩⟩ | ⟨r, q, -, -, -, -, -, -, -, pollOps, changed⟩ |
      ⟨r, q, -, -, -, -, -, pollOps, -, changed⟩ := submitPoll_cases vacant submitted
    · exact ⟨kept pollOps, fun j _ => by rw [same]⟩
    · exact ⟨kept pollOps, fun j other => (changed j).trans (if_neg other)⟩
    · exact ⟨kept pollOps, fun j other => (changed j).trans (if_neg other)⟩
    · refine ⟨fun pollToken op found => ?_, fun j other => (changed j).trans (if_neg other)⟩
      rw [pollOps, Slab.get_insert] at found
      split at found
      · rename_i here
        cases found
        exact .inr ⟨here, rfl⟩
      · rename_i other
        exact .inl ⟨other, found⟩
  refine blank.except token (fun j other stale => ?_) old.2 fun stale => ?_
  · obtain ⟨pollToken, op, found, here, later⟩ := stale
    obtain ⟨elsewhere, before⟩ | ⟨-, own⟩ := old.1 pollToken op found
    · exact ⟨pollToken, op, before, here, by simpa only [Function.update_of_ne elsewhere] using later⟩
    · exact absurd (here.symm.trans own) other
  · obtain ⟨pollToken, op, found, here, later⟩ := stale
    obtain ⟨elsewhere, before⟩ | ⟨rfl, -⟩ := old.1 pollToken op found
    · simp only [Function.update_of_ne elsewhere] at later
      exact absurd (alone pollToken op before here) later
    · simp only [Function.update_self, ne_eq, not_true] at later

theorem StaleBlank.register {env : RegisterEnv} {interest : Interest} {mode : RegistrationMode}
    (blank : StaleBlank s) (vacant : s.driver.registrations.get env.key = none) :
    StaleBlank (s.called (s.driver.registerHandleWithMode interest mode env).2 (.register interest mode env)) := by
  obtain ⟨pollOps, ⟨err, refused, same⟩ | ⟨h, accepted, inserted, fresh⟩⟩ :=
    registerHandleWithMode_cases interest mode vacant
  · simp only [called, refused]
    refine blank.quiet (fun _ _ found => pollOps ▸ found) ?_
    rw [same]
    exact .refl _
  · simp only [called, accepted]
    refine blank.except env.key (fun j other stale => ?_) (fun j other => ?_) fun _ v registered => ?_
    · obtain ⟨pollToken, op, found, here, later⟩ := stale
      refine ⟨pollToken, op, pollOps ▸ found, here, ?_⟩
      simpa only [Numbering.register, Function.update_of_ne other] using later
    · rw [inserted, Slab.get_insert, if_neg other]
    · rw [inserted, Slab.get_insert_self] at registered
      exact Option.some.inj registered ▸ fresh

theorem StaleBlank.step {l : HandleStep} (blank : StaleBlank s) (alone : s.PollsAlone l)
    (stepped : s.step l = some s') : StaleBlank s' := by
  cases l with
  | submitCompletion serial waker env =>
      cases stepped
      obtain ⟨pollOps, registrations⟩ := submitCompletion_frame s.driver serial waker env
      exact blank.quiet (fun _ _ found => pollOps ▸ found) (registrations ▸ .refl _)
  | getCompletionResult token =>
      cases stepped
      exact blank
  | setCompletionWaker token waker =>
      cases stepped
      exact blank
  | ignoreCompletion token data =>
      cases stepped
      exact blank
  | driver k =>
      simp only [Handles.step] at stepped
      split at stepped
      case isFalse => cases stepped
      case isTrue fit =>
          obtain ⟨d, ran, rfl⟩ := Option.map_eq_some_iff.mp stepped
          cases k with
          | post i internal bytes dosError =>
              cases ran
              exact blank
          | interrupt =>
              cases ran
              exact blank
          | process =>
              simp only [driverStep] at ran
              split at ran
              · cases ran
              · cases ran
                exact blank.quiet (fun _ _ => processNext_pollOps _ _) (processNext_carries _ _)
          | submitPoll token waker interest env =>
              cases ran
              exact blank.submitPoll waker interest (by simpa [fits] using fit) alone
          | register interest mode env =>
              cases ran
              exact blank.register (by simpa [fits] using fit)
          | reregister token interest =>
              cases ran
              refine blank.quiet (fun _ _ found => ?_) (reregisterHandle_carries _ _ _)
              rwa [reregisterHandle_pollOps] at found
          | deregister token =>
              cases ran
              refine blank.quiet (fun _ _ found => ?_) (deregisterHandle_carries _ _)
              rwa [deregisterHandle_pollOps] at found

theorem StaleBlank.harmless (blank : StaleBlank s) (l : HandleStep) : s.Harmless l := by
  unfold Harmless
  split
  · intro entry rest pollToken events op _ _ found stale
    obtain same | ⟨r, q, before, after, stays⟩ := processNext_registrations s.driver entry op.registrationToken
    · exact same
    · rw [after, before, stays (blank _ ⟨pollToken, op, found, rfl, stale⟩ _ before)]
  · trivial

theorem staleBlank_initial (initial : Initial s) : StaleBlank s := by
  rintro token ⟨pollToken, op, found, -⟩
  rw [initial.1] at found
  simp [IocpDriver.new] at found

theorem harmless_of_pollsAlone {labels : List HandleStep} (initial : Initial s)
    (alone : machine.AllSteps PollsAlone s labels) : machine.AllSteps Harmless s labels := by
  refine Machine.allSteps_of_allSteps (I := StaleBlank) ?_ ?_ (staleBlank_initial initial) alone
  · intro s l s' blank alone stepped
    exact blank.step alone stepped
  · intro s l blank _
    exact blank.harmless l

end Handles

end IocpDriver

/-! ## Both drivers -/

/-- **Stale polls are harmless while handles poll alone.**  In a run in which `submit_poll`
never finds a poll of an earlier handle outstanding under its token, no completion of a
poll of a handle that is gone changes the registration of the handle that has its token. -/
theorem stale_polls_harmless {u : UringDriver.Handles} {p : IocpDriver.Handles}
    {adds : List UringDriver.HandleStep} {afds : List IocpDriver.HandleStep}
    (uringStarts : UringDriver.Handles.Initial u) (iocpStarts : IocpDriver.Handles.Initial p)
    (addsAlone : UringDriver.Handles.machine.AllSteps UringDriver.Handles.PollsAlone u adds)
    (afdsAlone : IocpDriver.Handles.machine.AllSteps IocpDriver.Handles.PollsAlone p afds) :
    UringDriver.Handles.machine.AllSteps UringDriver.Handles.Harmless u adds ∧
      IocpDriver.Handles.machine.AllSteps IocpDriver.Handles.Harmless p afds :=
  ⟨UringDriver.Handles.harmless_of_pollsAlone uringStarts addsAlone,
    IocpDriver.Handles.harmless_of_pollsAlone iocpStarts afdsAlone⟩

def uringHandles : UringDriver.Handles := ⟨UringDriver.newClients.driver, .new, 0⟩

def iocpHandles : IocpDriver.Handles := ⟨.new, .new, fun _ => 0⟩

theorem uringHandles_initial : UringDriver.Handles.Initial uringHandles :=
  ⟨⟨8, true, UringDriver.idleEnter, rfl⟩, rfl, rfl⟩

/-- A handle polls and goes, and the next one waits for nothing yet when the completion of
its poll is read. -/
def lateAdd : List UringDriver.HandleStep :=
  [.driver (.register 5 .readable .poll 0), .driver (.submitPoll 0 ⟨1⟩ .readable UringDriver.idleEnter),
    .driver (.deregister 0), .driver (.register 6 .readable .poll 0),
    .driver (.background (.enter ⟨2, [(1, 1)], .ok 2⟩)), .drain 0]

def lateAfd : List IocpDriver.HandleStep :=
  [.driver (.register .readable .poll ⟨0, .ok 5, .ok (), .ok ()⟩),
    .driver (.submitPoll 0 ⟨1⟩ .readable ⟨.ok (), 0, 0, 0⟩), .driver (.deregister 0),
    .driver (.register .readable .poll ⟨0, .ok 6, .ok (), .ok ()⟩), .driver (.post 0 0 0 0), .driver .process]

theorem late_polls_harmless :
    (∃ s, UringDriver.Handles.machine.exec uringHandles lateAdd = some s) ∧
      (∃ s, IocpDriver.Handles.machine.exec iocpHandles lateAfd = some s) ∧
      UringDriver.Handles.machine.AllSteps UringDriver.Handles.Harmless uringHandles lateAdd ∧
      IocpDriver.Handles.machine.AllSteps IocpDriver.Handles.Harmless iocpHandles lateAfd := by
  refine ⟨⟨_, rfl⟩, ⟨_, rfl⟩, stale_polls_harmless uringHandles_initial ⟨rfl, rfl⟩ ?_ ?_⟩
  · refine ⟨trivial, fun a registered => ⟨?_, fun b _ => ⟨trivial, fun c _ => ⟨trivial, fun d _ =>
      ⟨trivial, fun e _ => ⟨trivial, fun _ _ => trivial⟩⟩⟩⟩⟩⟩
    cases registered
    intro e member
    exact absurd member (Multiset.notMem_zero e)
  · refine ⟨trivial, fun a registered => ⟨?_, fun b _ => ⟨trivial, fun c _ => ⟨trivial, fun d _ =>
      ⟨trivial, fun e _ => ⟨trivial, fun _ _ => trivial⟩⟩⟩⟩⟩⟩
    cases registered
    intro pollToken op found
    cases found

/-- The second handle waits as well before the completion of the first one's poll comes. -/
def staleAdd : List UringDriver.HandleStep :=
  [.driver (.register 5 .readable .poll 0), .driver (.submitPoll 0 ⟨1⟩ .readable UringDriver.idleEnter),
    .driver (.deregister 0), .driver (.register 6 .readable .poll 0),
    .driver (.submitPoll 0 ⟨2⟩ .readable UringDriver.idleEnter),
    .driver (.background (.enter ⟨3, [(1, 1)], .ok 3⟩))]

def staleAfd : List IocpDriver.HandleStep :=
  [.driver (.register .readable .poll ⟨0, .ok 5, .ok (), .ok ()⟩),
    .driver (.submitPoll 0 ⟨1⟩ .readable ⟨.ok (), 0, 0, 0⟩), .driver (.deregister 0),
    .driver (.register .readable .poll ⟨0, .ok 6, .ok (), .ok ()⟩),
    .driver (.submitPoll 0 ⟨2⟩ .readable ⟨.ok (), 1, 0, 0⟩), .driver (.post 0 0 0 0)]

/-- It takes the waiter of the second handle, whose poll nothing answered. -/
theorem stale_poll_takes_waiter :
    (∃ s s', UringDriver.Handles.Initial uringHandles ∧
        UringDriver.Handles.machine.exec uringHandles staleAdd = some s ∧
        s.step (.drain 0) = some s' ∧ s.numbering.holder 0 = 1 ∧
        s.driver.registrations.get 0 = some (.poll ⟨6, 1, some ⟨2⟩, true, none, false⟩) ∧
        s'.driver.registrations.get 0 = some (.poll ⟨6, 1, none, false, none, false⟩) ∧
        ¬ UringDriver.Handles.Harmless s (.drain 0)) ∧
      ∃ s s', IocpDriver.Handles.Initial iocpHandles ∧
        IocpDriver.Handles.machine.exec iocpHandles staleAfd = some s ∧
        s.step (.driver .process) = some s' ∧ s.numbering.holder 0 = 1 ∧
        s.driver.registrations.get 0 = some (.poll ⟨6, some ⟨2⟩, .readable, some 1⟩) ∧
        s'.driver.registrations.get 0 = some (.poll ⟨6, none, .readable, some 1⟩) ∧
        ¬ IocpDriver.Handles.Harmless s (.driver .process) := by
  constructor
  · refine ⟨_, _, uringHandles_initial, rfl, rfl, rfl, rfl, rfl, fun harmless => ?_⟩
    cases harmless _ _ rfl (by decide) (by decide)
  · refine ⟨_, _, ⟨rfl, rfl⟩, rfl, rfl, rfl, rfl, rfl, fun harmless => ?_⟩
    cases harmless _ _ 0 _ _ rfl rfl rfl (by decide)

end Vibeio.Driver
