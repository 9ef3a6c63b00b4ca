/-
# Driver.UringPoll -- poll waiters of the io_uring driver

A handle in poll mode has two waiters and two armed flags, one of each per
direction, but all its `PollAdd` entries carry one key and the registration keeps
one mask, the one requested last.  `drain_cq` decides by that mask whose poll has
completed.

* `WaitersCovered`: a stored waiter has an outstanding `PollAdd` of its direction.
* `DrainsRight`: reading the completion of a poll wakes the stored waiters of the
  directions it covers and leaves the other direction's waiter alone.
* `MaskMatches`: the condition under which both hold, read at the state before a
  completion is handled: the mask kept last is of the direction of the poll that
  completed, and no reader is stored when one of the two asks for both.

`reader_left_without_poll` is a run that breaks it: a reader and then a writer on
one handle, and the reader's completion consumes the writer.
-/
import Vibeio.Driver.UringSteps

namespace Vibeio.Driver

open Vibeio.Theory

set_option autoImplicit false

namespace UringDriver

@[simp] theorem maskHas_pollout (interest : Interest) :
    maskHas (interestToPollMask interest) POLLOUT = interest.isWritable := by
  cases interest <;> decide

@[simp] theorem maskHas_pollin (interest : Interest) :
    maskHas (interestToPollMask interest) POLLIN = interest.isReadable := by
  cases interest <;> decide

theorem get_setPoll (d : UringDriver) (token j : Nat) (r : PollRegistration) :
    (d.setPoll token r).registrations.get j =
      if j = token then some (.poll r) else d.registrations.get j :=
  Slab.get_insert d.registrations token j (.poll r)

@[simp] theorem setPoll_ring (d : UringDriver) (token : Nat) (r : PollRegistration) :
    (d.setPoll token r).ring = d.ring := rfl

/-! ## The system -/

inductive PollStep where
  | submitPoll (token : Nat) (waker : Waker) (interest : Interest) (submit : Enter)
  | background (l : RingStep)

def pollStep (d : UringDriver) : PollStep → Option UringDriver
  | .submitPoll token waker interest submit => some (d.submitPoll token waker interest submit).2
  | .background l => d.ringStep l

/-- Handles are registered and nothing has been asked of them yet. -/
structure FreshHandles (d : UringDriver) : Prop where
  small : ∀ token h, d.registrations.get token = some h → token < TOKEN_LIMIT
  unarmed : ∀ token r, d.registrations.get token = some (.poll r) →
    r.waiterRead = none ∧ r.pollReadArmed = false ∧ r.waiterWrite = none ∧ r.pollWriteArmed = false
  quiet : ∀ entry ∈ d.ring.outstanding, Reserved entry

/-- Any calls of `submit_poll` on the handles, and the driver and the kernel at
work in between. -/
def pollMachine : Machine UringDriver PollStep where
  start := FreshHandles
  step := pollStep

theorem freshHandles_new {entries : Nat} {extArg : Bool} {submit : Enter} {d : UringDriver}
    (created : new entries extArg submit = some d) : FreshHandles d := by
  unfold new submitInterrupt at created
  split at created
  · rename_i d' pushed
    cases created
    obtain ⟨_, _, impossible, _⟩ | ⟨ring, _, grown, rfl⟩ := pushEntry_cases pushed
    · cases impossible
    · refine ⟨fun token h registered => ?_, fun token r registered => ?_, fun entry member => ?_⟩
      · simp at registered
      · simp at registered
      · have member' : entry ∈ interruptEntry ::ₘ (0 : Multiset Sqe) := grown.outstanding ▸ member
        exact .inl (Multiset.mem_singleton.mp member')
  · cases created

theorem freshHandles_register {d : UringDriver} {fd : Int} {interest : Interest}
    {mode : RegistrationMode} {key : Nat} (fresh : FreshHandles d) (small : key < TOKEN_LIMIT) :
    FreshHandles (d.registerHandleWithMode fd interest mode key).2 := by
  refine ⟨fun token h registered => ?_, fun token r registered => ?_, fresh.quiet⟩
  · simp only [registerHandleWithMode, Slab.get_insert] at registered
    split at registered
    · omega
    · exact fresh.small token h registered
  · simp only [registerHandleWithMode, Slab.get_insert] at registered
    split at registered
    · cases mode with
      | completion => cases registered
      | poll =>
          cases registered
          exact ⟨rfl, rfl, rfl, rfl⟩
    · exact fresh.unarmed token r registered

/-! ## What is to hold -/

/-- A `PollAdd` of the token that covers `bit` is outstanding. -/
def PollOutstanding (d : UringDriver) (token bit : Nat) : Prop :=
  ∃ fd mask, maskHas mask bit = true ∧ pollAddEntry token fd mask ∈ d.ring.outstanding

def WaitersCovered (d : UringDriver) : Prop :=
  ∀ token r, d.registrations.get token = some (.poll r) →
    (r.waiterRead.isSome → d.PollOutstanding token POLLIN) ∧
      (r.waiterWrite.isSome → d.PollOutstanding token POLLOUT)

/-- The completion read by this step, if any, answers a poll of a registered
handle: it is read as that poll's. -/
def OnPollDrain (Q : PollRegistration → Nat → Drained → Nat → Prop) (d : UringDriver) :
    PollStep → Prop
  | .background .drain => ∀ cqe rest token fd mask r, d.ring.cq = cqe :: rest →
      cqe.sqe = pollAddEntry token fd mask → d.registrations.get token = some (.poll r) →
      Q r mask (d.drainNext cqe) token
  | _ => True

/-- Woken are the stored waiters of the directions the poll covers; the waiter of
a direction it does not cover stays. -/
structure WakesItsOwn (r : PollRegistration) (mask : Nat) (one : Drained) (token : Nat) : Prop where
  reader : maskHas mask POLLIN = true → ∀ w, r.waiterRead = some w → one.woken = some w
  writer : maskHas mask POLLOUT = true → ∀ w, r.waiterWrite = some w → one.woken = some w
  keepsReader : maskHas mask POLLIN = false →
    ∃ r', one.driver.registrations.get token = some (.poll r') ∧ r'.waiterRead = r.waiterRead
  keepsWriter : maskHas mask POLLOUT = false →
    ∃ r', one.driver.registrations.get token = some (.poll r') ∧ r'.waiterWrite = r.waiterWrite

def DrainsRight : UringDriver → PollStep → Prop := OnPollDrain WakesItsOwn

/-- The mask of the latest `submit_poll` is of the direction of the poll that
completed, and no reader is stored when either of them asks for both. -/
def MaskMatches : UringDriver → PollStep → Prop :=
  OnPollDrain fun r mask _ _ =>
    maskHas r.pollMask POLLOUT = maskHas mask POLLOUT ∧
      (maskHas mask POLLOUT = true → maskHas mask POLLIN = true ∨ maskHas r.pollMask POLLIN = true →
        r.waiterRead = none)

/-! ## The invariant -/

/-- A stored waiter is armed, and an armed direction has a poll outstanding that
`drain_cq` will take for one of that direction. -/
structure Tracked (entries : Multiset Sqe) (token : Nat) (r : PollRegistration) : Prop where
  readArmed : r.waiterRead.isSome → r.pollReadArmed = true
  writeArmed : r.waiterWrite.isSome → r.pollWriteArmed = true
  readPolled : r.pollReadArmed = true → ∃ fd mask, maskHas mask POLLIN = true ∧
    maskHas mask POLLOUT = false ∧ pollAddEntry token fd mask ∈ entries
  writePolled : r.pollWriteArmed = true → ∃ fd mask, maskHas mask POLLOUT = true ∧
    pollAddEntry token fd mask ∈ entries

/-- An entry `submit_poll` pushes. -/
def PollEntry (entry : Sqe) : Prop := ∃ token fd interest, token < TOKEN_LIMIT ∧
  entry = pollAddEntry token fd (interestToPollMask interest)

structure PollInvariant (d : UringDriver) : Prop where
  small : ∀ token h, d.registrations.get token = some h → token < TOKEN_LIMIT
  known : ∀ entry ∈ d.ring.outstanding, Reserved entry ∨ PollEntry entry
  tracked : ∀ token r, d.registrations.get token = some (.poll r) →
    Tracked d.ring.outstanding token r

/-- Entries that answer for `token` are kept when the others go. -/
theorem Tracked.of_kept {entries rest : Multiset Sqe} {token : Nat} {r : PollRegistration}
    (tracked : Tracked entries token r)
    (kept : ∀ fd mask, pollAddEntry token fd mask ∈ entries → pollAddEntry token fd mask ∈ rest) :
    Tracked rest token r := by
  refine ⟨tracked.readArmed, tracked.writeArmed, fun armed => ?_, fun armed => ?_⟩
  · obtain ⟨fd, mask, input, noOutput, member⟩ := tracked.readPolled armed
    exact ⟨fd, mask, input, noOutput, kept fd mask member⟩
  · obtain ⟨fd, mask, output, member⟩ := tracked.writePolled armed
    exact ⟨fd, mask, output, kept fd mask member⟩

theorem pollInvariant_fresh {d : UringDriver} (fresh : FreshHandles d) : PollInvariant d := by
  refine ⟨fresh.small, fun entry member => .inl (fresh.quiet entry member), ?_⟩
  intro token r registered
  obtain ⟨noReader, readOff, noWriter, writeOff⟩ := fresh.unarmed token r registered
  constructor <;> simp [noReader, readOff, noWriter, writeOff]

theorem PollInvariant.covered {d : UringDriver} (inv : PollInvariant d) : WaitersCovered d := by
  intro token r registered
  have tracked := inv.tracked token r registered
  constructor
  · intro stored
    obtain ⟨fd, mask, input, -, member⟩ := tracked.readPolled (tracked.readArmed stored)
    exact ⟨fd, mask, input, member⟩
  · intro stored
    obtain ⟨fd, mask, output, member⟩ := tracked.writePolled (tracked.writeArmed stored)
    exact ⟨fd, mask, output, member⟩

/-- The ring may gain entries the invariant knows, and nothing else changes. -/
theorem PollInvariant.grow {d : UringDriver} {ring : Ring} {pending : Bool} (inv : PollInvariant d)
    (kept : ∀ entry ∈ d.ring.outstanding, entry ∈ ring.outstanding)
    (known : ∀ entry ∈ ring.outstanding, entry ∈ d.ring.outstanding ∨ Reserved entry ∨
      PollEntry entry) :
    PollInvariant { d with ring := ring, pendingSubmissions := pending } := by
  refine ⟨inv.small, fun entry member => ?_, fun token r registered => ?_⟩
  · obtain old | new := known entry member
    · exact inv.known entry old
    · exact new
  · exact (inv.tracked token r registered).of_kept fun fd mask => kept _

theorem PollInvariant.moved {d : UringDriver} {ring : Ring} (inv : PollInvariant d)
    (moved : Ring.Moved d.ring ring) : PollInvariant { d with ring := ring } :=
  inv.grow (fun _ member => moved.outstanding ▸ member) fun _ member =>
    .inl (moved.outstanding ▸ member)

/-- A driver that differs in the registration of one token: only that has to be
tracked again. -/
theorem PollInvariant.changed {d d' : UringDriver} {token : Nat} {r : PollRegistration}
    (inv : PollInvariant d) (ring : d'.ring.outstanding = d.ring.outstanding)
    (small : token < TOKEN_LIMIT) (here : d'.registrations.get token = some (.poll r))
    (others : ∀ j, j ≠ token → d'.registrations.get j = d.registrations.get j)
    (tracked : Tracked d.ring.outstanding token r) : PollInvariant d' := by
  refine ⟨fun j h registered => ?_, ring ▸ inv.known, fun j q registered => ?_⟩
  · by_cases same : j = token
    · exact same ▸ small
    · exact inv.small j h (others j same ▸ registered)
  · rw [ring]
    by_cases same : j = token
    · subst same
      cases here.symm.trans registered
      exact tracked
    · exact inv.tracked j q (others j same ▸ registered)

theorem PollInvariant.setPoll {d : UringDriver} {token : Nat} {r : PollRegistration}
    (inv : PollInvariant d) (small : token < TOKEN_LIMIT)
    (tracked : Tracked d.ring.outstanding token r) : PollInvariant (d.setPoll token r) := by
  refine inv.changed rfl small (by simp [get_setPoll]) (fun j other => ?_) tracked
  simp [get_setPoll, other]

/-! ### `submit_poll` -/

theorem armPoll_write (r : PollRegistration) (waker : Waker) {interest : Interest}
    (write : interest.isWritable = true) :
    armPoll r waker interest =
      ({ r with waiterWrite := some waker, pollMask := interestToPollMask interest, pollWriteArmed := true },
        if r.pollWriteArmed then none else some (r.fd, interestToPollMask interest)) := by
  cases armed : r.pollWriteArmed <;> simp [armPoll, write, armed]

theorem armPoll_read (r : PollRegistration) (waker : Waker) {interest : Interest}
    (read : interest.isWritable = false) :
    armPoll r waker interest =
      ({ r with waiterRead := some waker, pollMask := interestToPollMask interest, pollReadArmed := true },
        if r.pollReadArmed then none else some (r.fd, interestToPollMask interest)) := by
  cases armed : r.pollReadArmed <;> simp [armPoll, read, armed]

theorem armPoll_entry {r : PollRegistration} {waker : Waker} {interest : Interest} {fd : Int}
    {mask : Nat} (asked : (armPoll r waker interest).2 = some (fd, mask)) :
    mask = interestToPollMask interest := by
  cases direction : interest.isWritable with
  | true =>
      rw [armPoll_write r waker direction] at asked
      simp only at asked
      split at asked <;> cases asked
      rfl
  | false =>
      rw [armPoll_read r waker direction] at asked
      simp only at asked
      split at asked <;> cases asked
      rfl

theorem isReadable_of_not_writable {interest : Interest} (read : interest.isWritable = false) :
    interest.isReadable = true := by
  cases interest <;> simp_all [Interest.isWritable, Interest.isReadable]

/-- With the entry it asks for outstanding, an armed registration is tracked. -/
theorem tracked_armPoll {entries : Multiset Sqe} {token : Nat} {r : PollRegistration} (waker : Waker)
    {interest : Interest} (tracked : Tracked entries token r)
    (pushed : ∀ fd mask, (armPoll r waker interest).2 = some (fd, mask) →
      pollAddEntry token fd mask ∈ entries) :
    Tracked entries token (armPoll r waker interest).1 := by
  cases direction : interest.isWritable with
  | true =>
      rw [armPoll_write r waker direction] at pushed ⊢
      refine ⟨tracked.readArmed, fun _ => rfl, tracked.readPolled, fun _ => ?_⟩
      cases armed : r.pollWriteArmed with
      | true => exact tracked.writePolled armed
      | false =>
          exact ⟨r.fd, interestToPollMask interest, by simp [direction], pushed _ _ (by simp [armed])⟩
  | false =>
      rw [armPoll_read r waker direction] at pushed ⊢
      refine ⟨fun _ => rfl, tracked.writeArmed, fun _ => ?_, tracked.writePolled⟩
      cases armed : r.pollReadArmed with
      | true => exact tracked.readPolled armed
      | false =>
          refine ⟨r.fd, interestToPollMask interest, ?_, by simp [direction], pushed _ _ (by simp [armed])⟩
          simp [isReadable_of_not_writable direction]

/-- What a failed push undoes leaves the registration tracked by what there was. -/
theorem tracked_disarmPoll {entries : Multiset Sqe} {token : Nat} {r : PollRegistration} (waker : Waker)
    {interest : Interest} (tracked : Tracked entries token r) :
    Tracked entries token (disarmPoll (armPoll r waker interest).1) := by
  cases direction : interest.isWritable with
  | true =>
      rw [armPoll_write r waker direction]
      simp only [disarmPoll, maskHas_pollout, maskHas_pollin, direction, if_true]
      cases interest.isReadable with
      | true => constructor <;> simp
      | false => exact ⟨tracked.readArmed, by simp, tracked.readPolled, by simp⟩
  | false =>
      rw [armPoll_read r waker direction]
      simp only [disarmPoll, maskHas_pollout, maskHas_pollin, direction,
        isReadable_of_not_writable direction, if_true]
      exact ⟨by simp, tracked.writeArmed, by simp, tracked.writePolled⟩

theorem PollInvariant.submitPoll {d : UringDriver} (inv : PollInvariant d) (token : Nat)
    (waker : Waker) (interest : Interest) (submit : Enter) :
    PollInvariant (d.submitPoll token waker interest submit).2 := by
  unfold UringDriver.submitPoll
  split
  · exact inv
  · exact inv
  · rename_i r registered
    have small := inv.small token _ registered
    have tracked := inv.tracked token r registered
    simp only
    split
    · rename_i noEntry
      exact inv.setPoll small (tracked_armPoll waker tracked (by simp [noEntry]))
    · rename_i fd mask entry
      split
      · -- the push succeeds: what was armed is outstanding now
        rename_i d' pushed
        obtain ⟨_, _, impossible, _⟩ | ⟨ring, -, grown, rfl⟩ := pushEntry_cases pushed
        · cases impossible
        have members : ∀ e, e ∈ ring.outstanding ↔
            e = pollAddEntry token fd mask ∨ e ∈ d.ring.outstanding := by
          intro e
          rw [grown.outstanding, Multiset.mem_cons]
          rfl
        have grownInv : PollInvariant { d with ring := ring, pendingSubmissions := true } := by
          refine inv.grow (fun e member => (members e).mpr (.inr member)) fun e member => ?_
          obtain rfl | old := (members e).mp member
          · exact .inr (.inr ⟨token, fd, interest, small, by rw [armPoll_entry entry]⟩)
          · exact .inl old
        refine grownInv.setPoll small (tracked_armPoll waker ?_ ?_)
        · exact tracked.of_kept fun fd' mask' member => (members _).mpr (.inr member)
        · intro fd' mask' asked
          rw [entry] at asked
          cases asked
          exact (members _).mpr (.inl rfl)
      · -- it fails: the registration is put back
        rename_i err d' pushed
        obtain ⟨_, ring, -, moved, rfl⟩ | ⟨_, impossible, _⟩ := pushEntry_cases pushed
        · refine inv.changed moved.outstanding small ((get_setPoll _ _ _ _).trans (if_pos rfl))
            (fun j other => ?_) (tracked_disarmPoll waker tracked)
          simp [UringDriver.setPoll, Slab.get_insert, other]
        · cases impossible

/-! ### Reading a completion -/

theorem drainPoll_write {r : PollRegistration} (write : maskHas r.pollMask POLLOUT = true) :
    (drainPoll r).1 = r.waiterWrite ∧ (drainPoll r).2.waiterWrite = none ∧
      (drainPoll r).2.pollWriteArmed = false ∧
      (drainPoll r).2.waiterRead = (if maskHas r.pollMask POLLIN then none else r.waiterRead) ∧
      (drainPoll r).2.pollReadArmed =
        (if maskHas r.pollMask POLLIN then false else r.pollReadArmed) := by
  cases read : maskHas r.pollMask POLLIN <;> simp [drainPoll, write, read]

theorem drainPoll_read {r : PollRegistration} (read : maskHas r.pollMask POLLOUT = false) :
    drainPoll r = (r.waiterRead, { r with pollReadArmed := false, waiterRead := none }) := by
  simp [drainPoll, read]

/-- The direction the completed poll is taken for is unarmed; the other one keeps
the poll it had. -/
theorem tracked_drainPoll {entries : Multiset Sqe} {token : Nat} {r : PollRegistration} {fd : Int}
    {mask : Nat} (tracked : Tracked (pollAddEntry token fd mask ::ₘ entries) token r)
    (direction : maskHas r.pollMask POLLOUT = maskHas mask POLLOUT) :
    Tracked entries token (drainPoll r).2 := by
  obtain ⟨readArmed, writeArmed, readPolled, writePolled⟩ := tracked
  cases write : maskHas mask POLLOUT with
  | true =>
      obtain ⟨-, noWriter, writeOff, reader, readOn⟩ := drainPoll_write (direction.trans write)
      refine ⟨?_, by simp [noWriter], ?_, by simp [writeOff]⟩
      · rw [reader, readOn]
        split
        · simp
        · exact readArmed
      · rw [readOn]
        split
        · simp
        · intro armed
          obtain ⟨fd', mask', input, noOutput, member⟩ := readPolled armed
          refine ⟨fd', mask', input, noOutput, (Multiset.mem_cons.mp member).resolve_left ?_⟩
          intro same
          cases same
          rw [write] at noOutput
          cases noOutput
  | false =>
      rw [drainPoll_read (direction.trans write)]
      refine ⟨by simp, writeArmed, by simp, fun armed => ?_⟩
      obtain ⟨fd', mask', output, member⟩ := writePolled armed
      refine ⟨fd', mask', output, (Multiset.mem_cons.mp member).resolve_left ?_⟩
      intro same
      cases same
      rw [write] at output
      cases output

/-- A completion of another token, or of none, takes no poll away from this one. -/
theorem PollInvariant.pop {d : UringDriver} {cqe : Cqe} {rest : List Cqe} (inv : PollInvariant d)
    (front : d.ring.cq = cqe :: rest) {j : Nat} {r : PollRegistration}
    (registered : d.registrations.get j = some (.poll r))
    (other : ∀ fd mask, cqe.sqe ≠ pollAddEntry j fd mask) :
    Tracked d.ring.pop.outstanding j r := by
  refine (inv.tracked j r registered).of_kept fun fd mask member => ?_
  rw [Ring.outstanding_pop front, Multiset.mem_cons] at member
  exact member.resolve_left fun same => other fd mask same.symm

theorem pollAddEntry_token {a b : Nat} {fd fd' : Int} {mask mask' : Nat} (smallA : a < TOKEN_LIMIT)
    (smallB : b < TOKEN_LIMIT) (same : pollAddEntry a fd mask = pollAddEntry b fd' mask') : a = b :=
  encodePollKey_inj smallA smallB (Sqe.mk.inj same).1

theorem PollInvariant.drain {d : UringDriver} {cqe : Cqe} {rest : List Cqe} (inv : PollInvariant d)
    (front : d.ring.cq = cqe :: rest)
    (matching : ∀ token fd mask r, cqe.sqe = pollAddEntry token fd mask →
      d.registrations.get token = some (.poll r) →
      maskHas r.pollMask POLLOUT = maskHas mask POLLOUT) :
    PollInvariant (d.drainNext cqe).driver := by
  have known : ∀ entry ∈ d.ring.pop.outstanding, Reserved entry ∨ PollEntry entry := by
    intro entry left
    refine inv.known entry ?_
    rw [Ring.outstanding_pop front]
    exact Multiset.mem_cons_of_mem left
  obtain reserved | ⟨token, fd, interest, small, own⟩ := inv.known _ (Ring.front_outstanding front)
  · rw [drainNext_reserved reserved]
    refine ⟨inv.small, known, fun j r registered => inv.pop front registered fun fd mask same => ?_⟩
    have below := (decode_encodePollKey (inv.small j _ registered)).1
    have key := congrArg Sqe.userData same
    simp only [pollAddEntry] at key
    obtain own | ⟨nanos, own⟩ := reserved
    · simp only [own, interruptEntry] at key
      omega
    · simp only [own, timeoutEntry] at key
      omega
  · have others : ∀ j r, d.registrations.get j = some (.poll r) → j ≠ token →
        Tracked d.ring.pop.outstanding j r := by
      intro j r registered different
      refine inv.pop front registered fun fd' mask' same => different ?_
      exact pollAddEntry_token (inv.small j _ registered) small (same.symm.trans own)
    by_cases polled : ∃ r, d.registrations.get token = some (.poll r)
    · obtain ⟨r, registered⟩ := polled
      rw [drainNext_poll small own registered]
      have tracked := inv.tracked token r registered
      rw [Ring.outstanding_pop front, own] at tracked
      have mine := tracked_drainPoll tracked (matching token fd _ r own registered)
      refine ⟨fun j h found => ?_, known, fun j q found => ?_⟩
      · rw [get_setPoll] at found
        split at found
        · rename_i same
          exact same ▸ small
        · exact inv.small j h found
      · rw [get_setPoll] at found
        split at found
        · rename_i same
          cases found
          exact same ▸ mine
        · rename_i different
          exact others j q found different
    · rw [drainNext_poll_stale small own fun r registered => polled ⟨r, registered⟩]
      refine ⟨inv.small, known, fun j r registered => others j r registered ?_⟩
      rintro rfl
      exact polled ⟨r, registered⟩

/-! ## Every run -/

theorem PollInvariant.step {d d' : UringDriver} {l : PollStep} (inv : PollInvariant d)
    (matching : MaskMatches d l) (stepped : d.pollStep l = some d') : PollInvariant d' := by
  cases l with
  | submitPoll token waker interest submit =>
      cases stepped
      exact inv.submitPoll token waker interest submit
  | background l =>
      obtain ⟨ring, moved, rfl⟩ | ⟨pending, rfl⟩ | ⟨entry, ring, reserved, grown, rfl⟩ |
        ⟨cqe, rest, rfl, front, rfl⟩ := ringStep_cases stepped
      · exact inv.moved moved
      · exact ⟨inv.small, inv.known, inv.tracked⟩
      · refine inv.grow (fun e member => ?_) fun e member => ?_
        · rw [grown.outstanding]
          exact Multiset.mem_cons_of_mem member
        · rw [grown.outstanding, Multiset.mem_cons] at member
          obtain rfl | old := member
          · exact .inr (.inl reserved)
          · exact .inl old
      · refine inv.drain front fun token fd mask r own registered => ?_
        exact (matching cqe rest token fd mask r front own registered).1

/-- A matching mask makes the one completion wake the right waiter. -/
theorem PollInvariant.drainsRight {d : UringDriver} {l : PollStep} (inv : PollInvariant d)
    (matching : MaskMatches d l) : DrainsRight d l := by
  unfold DrainsRight OnPollDrain
  split
  · intro cqe rest token fd mask r front own registered
    obtain ⟨direction, noReader⟩ := matching cqe rest token fd mask r front own registered
    rw [drainNext_poll (inv.small token _ registered) own registered]
    have found : (({ d with ring := d.ring.pop } : UringDriver).setPoll token
        (drainPoll r).2).registrations.get token = some (.poll (drainPoll r).2) := by
      rw [get_setPoll, if_pos rfl]
    have one_direction : maskHas mask POLLOUT = false → maskHas mask POLLIN = true := by
      obtain reserved | ⟨token', fd', interest, -, asked⟩ := inv.known _ (Ring.front_outstanding front)
      · rw [own] at reserved
        obtain impossible | ⟨nanos, impossible⟩ := reserved
        · cases (Sqe.mk.inj impossible).2
        · cases (Sqe.mk.inj impossible).2
      · obtain ⟨-, request⟩ := Sqe.mk.inj (own.symm.trans asked)
        cases request
        simpa using isReadable_of_not_writable
    cases write : maskHas mask POLLOUT with
    | true =>
        obtain ⟨woken, -, -, reader, -⟩ := drainPoll_write (direction.trans write)
        refine ⟨fun read w stored => ?_, fun _ w stored => woken.trans stored, fun _ => ?_, ?_⟩
        · rw [noReader write (.inl read)] at stored
          cases stored
        · refine ⟨_, found, ?_⟩
          rw [reader]
          split
          · rename_i input
            exact (noReader write (.inr input)).symm
          · rfl
        · intro noOutput
          rw [write] at noOutput
          cases noOutput
    | false =>
        rw [drainPoll_read (direction.trans write)] at found ⊢
        refine ⟨fun _ w stored => stored, ?_, ?_, fun _ => ⟨_, found, rfl⟩⟩
        · intro output
          rw [write] at output
          cases output
        · intro noInput
          rw [one_direction write] at noInput
          cases noInput
  · trivial

/-- **Reader and writer keep their polls.**  In every run in which each completion
is handled while the mask kept last is of its direction, a stored waiter has an
outstanding poll of its direction at all times and each completion wakes its own
waiter. -/
theorem waiters_covered_of_matching_masks {d : UringDriver} {labels : List PollStep}
    (fresh : FreshHandles d) (matching : pollMachine.AllSteps MaskMatches d labels) :
    pollMachine.Throughout WaitersCovered d labels ∧ pollMachine.AllSteps DrainsRight d labels := by
  have kept : ∀ s l t, PollInvariant s → MaskMatches s l → pollMachine.step s l = some t →
      PollInvariant t := fun _ _ _ inv matching stepped => inv.step matching stepped
  have start := pollInvariant_fresh fresh
  constructor
  · exact Machine.throughout_of_allSteps kept (fun _ inv => inv.covered) start matching
  · exact Machine.allSteps_of_allSteps kept (fun _ _ inv matches_ => inv.drainsRight matches_) start
      matching

/-- `flush` and `wait` are runs of this machine, one label for each completion they
handle. -/
theorem pollMachine_background {d d' : UringDriver} (runs : background.Runs d d') :
    ∃ labels : List RingStep, pollMachine.exec d (labels.map .background) = some d' := by
  obtain ⟨labels, ran⟩ := runs
  refine ⟨labels, ?_⟩
  have mirrored := background.exec_map (N := pollMachine) (f := id) (g := .background)
    (fun s l => (Option.map_id' (x := s.ringStep l)).symm) d labels
  simpa [ran] using mirrored

/-! ## A reader and a writer on one handle -/

def idleEnter : Enter := ⟨0, [], .ok 0⟩

/-- A new driver with one handle in poll mode, under token 0. -/
def oneHandle : UringDriver :=
  (registerHandleWithMode
    { ring := { capacity := 8, sq := [interruptEntry], inFlight := [], cq := [], drained := [] }
      registrations := .empty, completions := .empty, pendingSubmissions := true, extArg := true }
    3 .readable .poll 0).2

theorem freshHandles_oneHandle : FreshHandles oneHandle :=
  freshHandles_register (@freshHandles_new 8 true idleEnter _ rfl) (by decide)

/-- A reader waits, its poll completes, the completion is read. -/
def readerAlone : List PollStep :=
  [.submitPoll 0 ⟨1⟩ .readable idleEnter, .background (.enter ⟨2, [(1, 1)], .ok 2⟩), .background .drain]

/-- A reader waits, then a writer; the reader's poll completes and is read. -/
def readerThenWriter : List PollStep :=
  [.submitPoll 0 ⟨1⟩ .readable idleEnter, .submitPoll 0 ⟨2⟩ .writable idleEnter,
    .background (.enter ⟨3, [(1, 1)], .ok 3⟩), .background .drain]

theorem reader_alone_stays_covered :
    pollMachine.Throughout WaitersCovered oneHandle readerAlone ∧
      pollMachine.AllSteps DrainsRight oneHandle readerAlone := by
  refine waiters_covered_of_matching_masks freshHandles_oneHandle ?_
  refine ⟨trivial, fun next stepped => ⟨trivial, fun next' stepped' => ⟨?_, fun _ _ => trivial⟩⟩⟩
  have submitted : PollInvariant next :=
    (pollInvariant_fresh freshHandles_oneHandle).step (l := readerAlone[0]) trivial stepped
  have inv : PollInvariant next' := submitted.step (l := readerAlone[1]) trivial stepped'
  cases stepped
  cases stepped'
  intro cqe rest token fd mask r front own registered
  cases front
  have first : token = 0 :=
    (pollAddEntry_token (by decide) (inv.small token _ registered) own).symm
  subst first
  cases registered
  cases own
  decide

theorem reader_left_without_poll :
    ∃ d, FreshHandles oneHandle ∧ pollMachine.exec oneHandle readerThenWriter = some d ∧
      ¬ WaitersCovered d := by
  refine ⟨_, freshHandles_oneHandle, rfl, fun covered => ?_⟩
  obtain ⟨reader, -⟩ := covered 0 _ rfl
  obtain ⟨fd, mask, input, member⟩ := reader rfl
  have left : pollAddEntry 0 fd mask ∈ [interruptEntry, pollAddEntry 0 3 POLLOUT] := member
  rw [List.mem_cons, List.mem_singleton] at left
  obtain interrupt | writer := left
  · cases (Sqe.mk.inj interrupt).2
  · cases (Sqe.mk.inj writer).2
    exact absurd input (by decide)

end UringDriver

end Vibeio.Driver
