/-
# Driver.PollWaiters -- the waiters of the mio driver and of AFD polls

A registration of these two drivers has one waiter and one interest, while both
directions of a socket may be waited for at once.  Beside the driver the system
here keeps `pending`: for each token and direction, the waker `submit_poll`
accepted last and no event has answered since.

* `MioDriver.WaitersKept`, `IocpDriver.WaitersKept`: every pending waker is the one
  stored, and the operating system still watches its direction.
* `OneDirection`: nobody waits for the other direction when a waker is accepted.

`poll_waiters_kept_iff` says that the condition is exact, over every run, for both
drivers; `writer_discards_reader` is what happens outside it.
-/
import Vibeio.Driver.Mio
import Vibeio.Driver.IocpOperations

namespace Vibeio.Driver

open Vibeio.Theory

set_option autoImplicit false

/-- The direction a task waits for. -/
inductive Direction where
  | read
  | write
  deriving DecidableEq, Repr

namespace Direction

def interest : Direction → Interest
  | read => .readable
  | write => .writable

def other : Direction → Direction
  | read => .write
  | write => .read

/-- `registered` watches this direction. -/
def WatchedBy (dir : Direction) (registered : Interest) : Prop := dir.interest.Within registered

instance (dir : Direction) (registered : Interest) : Decidable (dir.WatchedBy registered) :=
  inferInstanceAs (Decidable (dir.interest.Within registered))

theorem watchedBy_interest {a b : Direction} : a.WatchedBy b.interest ↔ a = b := by
  cases a <;> cases b <;> decide

theorem other_ne (dir : Direction) : dir.other ≠ dir := by cases dir <;> decide

theorem eq_or_eq_other (a b : Direction) : a = b ∨ a = b.other := by
  cases a <;> cases b <;> decide

/-- Readiness within a single direction is that direction. -/
theorem watchedBy_of_within {dir : Direction} {readiness : Interest}
    (within : readiness.Within dir.interest) : dir.WatchedBy readiness := by
  revert within
  cases dir <;> cases readiness <;> decide

end Direction

/-- A driver, and the wakers it has accepted that no event has answered. -/
structure Handed (D : Type) where
  driver : D
  pending : Nat → Direction → Option Waker

namespace Handed

variable {D : Type}

/-- `waker` is now the one accepted for `dir`. -/
def accept (s : Handed D) (token : Nat) (dir : Direction) (waker : Waker) : Nat → Direction → Option Waker :=
  fun t e => if t = token ∧ e = dir then some waker else s.pending t e

/-- An event has answered the directions of `token` that `answered` names. -/
def answer (s : Handed D) (token : Nat) (answered : Direction → Bool) : Nat → Direction → Option Waker :=
  fun t e => if t = token ∧ answered e then none else s.pending t e

/-- Nobody waits for the other direction of the handle. -/
def OneDirection (s : Handed D) (token : Nat) (dir : Direction) : Prop := s.pending token dir.other = none

theorem accept_self (s : Handed D) (token : Nat) (dir : Direction) (waker : Waker) :
    s.accept token dir waker token dir = some waker :=
  if_pos ⟨rfl, rfl⟩

theorem accept_other (s : Handed D) (token : Nat) (dir : Direction) (waker : Waker) :
    s.accept token dir waker token dir.other = s.pending token dir.other :=
  if_neg fun same => dir.other_ne same.2

/-- Who waits after a waker was accepted on a handle nobody else waited on. -/
theorem accept_cases {s : Handed D} {token t : Nat} {dir e : Direction} {waker w : Waker}
    (alone : s.OneDirection token dir) (waits : s.accept token dir waker t e = some w) :
    (t = token ∧ e = dir ∧ w = waker) ∨ (t ≠ token ∧ s.pending t e = some w) := by
  unfold accept at waits
  split at waits
  · rename_i same
    exact .inl ⟨same.1, same.2, (Option.some.inj waits).symm⟩
  · rename_i different
    by_cases here : t = token
    · subst here
      rcases e.eq_or_eq_other dir with rfl | rfl
      · exact absurd ⟨rfl, rfl⟩ different
      · rw [alone] at waits
        cases waits
    · exact .inr ⟨here, waits⟩

/-- If no handle was waited on in both directions, none is now. -/
theorem accept_single {s : Handed D} {token t : Nat} {dir e : Direction} {waker w : Waker}
    (alone : s.OneDirection token dir)
    (single : ∀ t e w, s.pending t e = some w → s.OneDirection t e)
    (waits : s.accept token dir waker t e = some w) : s.accept token dir waker t e.other = none := by
  cases waits' : s.accept token dir waker t e.other with
  | none => rfl
  | some w' =>
      rcases accept_cases alone waits with ⟨rfl, rfl, rfl⟩ | ⟨elsewhere, before⟩ <;>
        rcases accept_cases alone waits' with ⟨here, equal, -⟩ | ⟨elsewhere', before'⟩
      · exact absurd equal e.other_ne
      · exact absurd rfl elsewhere'
      · exact absurd here elsewhere
      · rw [single t e w before] at before'
        cases before'

/-- Who waits after an event that answers everybody waiting on its handle. -/
theorem answer_cases {s : Handed D} {token t : Nat} {answered : Direction → Bool} {e : Direction}
    {w : Waker} (all : ∀ e w, s.pending token e = some w → answered e = true)
    (waits : s.answer token answered t e = some w) : t ≠ token ∧ s.pending t e = some w := by
  unfold answer at waits
  split at waits
  · cases waits
  · rename_i unanswered
    refine ⟨?_, waits⟩
    rintro rfl
    exact unanswered ⟨rfl, all e w waits⟩

end Handed

/-! ## The mio driver -/

namespace MioDriver

/-- Calls of `submit_poll` for one direction, and the events the system delivers. -/
inductive WaiterStep where
  | submitPoll (token : Nat) (waker : Waker) (dir : Direction) (registered : Except IoError Unit)
  | event (event : Event)

/-- The system reports readiness it was asked to watch. -/
def Watched (d : MioDriver) (event : Event) : Bool :=
  (d.registry.get event.token).any fun registered => decide (event.readiness.Within registered)

def waiterStep (s : Handed MioDriver) : WaiterStep → Option (Handed MioDriver)
  | .submitPoll token waker dir registered =>
      match s.driver.submitPoll token waker dir.interest registered with
      | (.ok (), d) => some ⟨d, s.accept token dir waker⟩
      | (.error _, d) => some ⟨d, s.pending⟩
  | .event event =>
      if s.driver.Watched event then
        some ⟨(s.driver.handleEvent event).2,
          s.answer event.token fun dir => decide (dir.WatchedBy event.readiness)⟩
      else none

/-- Handles are registered and nobody waits yet. -/
structure Fresh (s : Handed MioDriver) : Prop where
  idle : ∀ token dir, s.pending token dir = none
  small : ∀ token r, s.driver.registrations.get token = some r → token < USIZE_MAX
  agrees : ∀ token r i, s.driver.registrations.get token = some r → r.interest = some i →
    s.driver.registry.get token = some i

def waiterMachine : Machine (Handed MioDriver) WaiterStep where
  start := Fresh
  step := waiterStep

/-- A pending waker is stored, the system watches its direction, and whatever event
comes for the handle wakes it. -/
def WaitersKept (s : Handed MioDriver) : Prop :=
  ∀ token dir waker, s.pending token dir = some waker →
    (∃ r, s.driver.registrations.get token = some r ∧ r.waiter = some waker) ∧
    (∃ registered, s.driver.registry.get token = some registered ∧ dir.WatchedBy registered) ∧
    ∀ readiness, (s.driver.handleEvent ⟨token, readiness⟩).1 = some waker

/-- A waker is accepted only while nobody waits for the other direction, unless the
system refuses to register the new interest. -/
def OneDirection (s : Handed MioDriver) : WaiterStep → Prop
  | .submitPoll token _ dir registered => registered = .ok () → s.OneDirection token dir
  | .event _ => True

structure Invariant (s : Handed MioDriver) : Prop where
  stored : ∀ token dir waker, s.pending token dir = some waker →
    ∃ r, s.driver.registrations.get token = some r ∧ r.waiter = some waker
  watched : ∀ token dir waker, s.pending token dir = some waker →
    s.driver.registry.get token = some dir.interest
  small : ∀ token r, s.driver.registrations.get token = some r → token < USIZE_MAX
  agrees : ∀ token r i, s.driver.registrations.get token = some r → r.interest = some i →
    s.driver.registry.get token = some i

theorem handleEvent_registered {d : MioDriver} (event : Event) {r : MioRegistration}
    (small : event.token < USIZE_MAX) (registered : d.registrations.get event.token = some r) :
    d.handleEvent event = (r.waiter, { d with
      registrations := d.registrations.insert event.token { r with interest := none, waiter := none } }) := by
  have notInterrupt : event.token ≠ USIZE_MAX := by omega
  simp [handleEvent, notInterrupt, registered]

theorem invariant_fresh {s : Handed MioDriver} (fresh : Fresh s) : Invariant s := by
  refine ⟨?_, ?_, fresh.small, fresh.agrees⟩
  · intro token dir waker waits
    rw [fresh.idle] at waits
    cases waits
  · intro token dir waker waits
    rw [fresh.idle] at waits
    cases waits

theorem Invariant.kept {s : Handed MioDriver} (inv : Invariant s) : WaitersKept s := by
  intro token dir waker waits
  obtain ⟨r, registered, stored⟩ := inv.stored token dir waker waits
  refine ⟨⟨r, registered, stored⟩, ⟨dir.interest, inv.watched token dir waker waits, ?_⟩, fun readiness => ?_⟩
  · exact Direction.watchedBy_interest.mpr rfl
  · have woken := handleEvent_registered ⟨token, readiness⟩ (inv.small token r registered) registered
    rw [woken]
    exact stored

/-- Everything `submit_poll` can do to a registered handle. -/
theorem submitPoll_cases {d d' : MioDriver} {token : Nat} {waker : Waker} {interest : Interest}
    {registered result : Except IoError Unit}
    (submitted : d.submitPoll token waker interest registered = (result, d')) :
    (∃ err, result = .error err ∧ d' = d) ∨
      (∃ r, d.registrations.get token = some r ∧ r.interest ≠ some interest ∧ registered = .ok () ∧
        result = .ok () ∧ d' = {
          registrations := d.registrations.insert token
            { r with interest := some interest, waiter := some waker }
          registry := d.registry.insert token interest }) ∨
      (∃ r, d.registrations.get token = some r ∧ r.interest = some interest ∧ result = .ok () ∧
        d' = { d with registrations := d.registrations.insert token { r with waiter := some waker } }) := by
  unfold submitPoll at submitted
  split at submitted
  · cases submitted
    exact .inl ⟨_, rfl, rfl⟩
  · rename_i r found
    simp only [updateWaiter_eq] at submitted
    split at submitted
    · rename_i changed
      split at submitted
      · cases submitted
        exact .inl ⟨_, rfl, rfl⟩
      · cases submitted
        exact .inr (.inl ⟨r, found, changed, rfl, rfl, rfl⟩)
    · rename_i same
      cases submitted
      exact .inr (.inr ⟨r, found, not_not.mp same, rfl, rfl⟩)

/-- An accepted waker, stored while the system watches its direction. -/
theorem Invariant.accepted {s : Handed MioDriver} (inv : Invariant s) {token : Nat} {dir : Direction}
    {waker : Waker} {r q : MioRegistration} {registry : Slab Interest}
    (found : s.driver.registrations.get token = some r) (alone : s.OneDirection token dir)
    (stored : q.waiter = some waker) (interest : ∀ i, q.interest = some i → i = dir.interest)
    (watches : registry.get token = some dir.interest)
    (others : ∀ t, t ≠ token → registry.get t = s.driver.registry.get t) :
    Invariant ⟨⟨s.driver.registrations.insert token q, registry⟩, s.accept token dir waker⟩ := by
  constructor
  · intro t e w waits
    show ∃ r', (s.driver.registrations.insert token q).get t = some r' ∧ r'.waiter = some w
    rw [Slab.get_insert]
    rcases Handed.accept_cases alone waits with ⟨rfl, rfl, rfl⟩ | ⟨elsewhere, before⟩
    · exact ⟨q, if_pos rfl, stored⟩
    · rw [if_neg elsewhere]
      exact inv.stored t e w before
  · intro t e w waits
    show registry.get t = some e.interest
    rcases Handed.accept_cases alone waits with ⟨rfl, rfl, rfl⟩ | ⟨elsewhere, before⟩
    · exact watches
    · rw [others t elsewhere]
      exact inv.watched t e w before
  · intro t r' registered
    simp only [Slab.get_insert] at registered
    split at registered
    · rename_i same
      rw [same]
      exact inv.small token r found
    · exact inv.small t r' registered
  · intro t r' i registered wants
    show registry.get t = some i
    simp only [Slab.get_insert] at registered
    split at registered
    · rename_i same
      cases registered
      rw [same, watches, interest i wants]
    · rename_i elsewhere
      rw [others t elsewhere]
      exact inv.agrees t r' i registered wants

theorem Invariant.submitPoll {s s' : Handed MioDriver} (inv : Invariant s) {token : Nat} {waker : Waker}
    {dir : Direction} {registered : Except IoError Unit}
    (alone : registered = .ok () → s.OneDirection token dir)
    (stepped : waiterStep s (.submitPoll token waker dir registered) = some s') : Invariant s' := by
  simp only [waiterStep] at stepped
  split at stepped
  · rename_i d submitted
    cases stepped
    rcases submitPoll_cases submitted with ⟨_, impossible, _⟩ | ⟨r, found, changed, accepted, -, rfl⟩ |
      ⟨r, found, same, -, rfl⟩
    · cases impossible
    · apply inv.accepted found (alone accepted) rfl
      · intro i wants
        exact (Option.some.inj wants).symm
      · exact Slab.get_insert_self _ _ _
      · intro t elsewhere
        rw [Slab.get_insert, if_neg elsewhere]
    · -- the interest is registered already, so it is this direction that is watched
      have watches := inv.agrees token r _ found same
      have alone' : s.OneDirection token dir := by
        show s.pending token dir.other = none
        cases waits : s.pending token dir.other with
        | none => rfl
        | some w =>
            have both := inv.watched token _ w waits
            rw [watches] at both
            cases dir <;> cases both
      apply inv.accepted found alone' rfl
      · intro i wants
        exact Option.some.inj (wants.symm.trans same)
      · exact watches
      · intro t elsewhere
        rfl
  · rename_i err d submitted
    cases stepped
    rcases submitPoll_cases submitted with ⟨_, -, rfl⟩ | ⟨_, _, _, _, impossible, _⟩ |
      ⟨_, _, _, impossible, _⟩
    · exact inv
    · cases impossible
    · cases impossible

theorem Invariant.event {s s' : Handed MioDriver} (inv : Invariant s) {event : Event}
    (stepped : waiterStep s (.event event) = some s') : Invariant s' := by
  simp only [waiterStep] at stepped
  split at stepped
  · rename_i delivered
    cases stepped
    have all : ∀ e w, s.pending event.token e = some w →
        decide (e.WatchedBy event.readiness) = true := by
      intro e w waits
      have watches := inv.watched event.token e w waits
      simp only [Watched, watches, Option.any_some, decide_eq_true_eq] at delivered
      exact decide_eq_true (Direction.watchedBy_of_within delivered)
    by_cases known : ∃ r, s.driver.registrations.get event.token = some r
    · obtain ⟨r, found⟩ := known
      rw [handleEvent_registered event (inv.small event.token r found) found]
      constructor
      · intro t e w waits
        obtain ⟨elsewhere, before⟩ := Handed.answer_cases all waits
        show ∃ r', (s.driver.registrations.insert event.token _).get t = some r' ∧ r'.waiter = some w
        rw [Slab.get_insert, if_neg elsewhere]
        exact inv.stored t e w before
      · intro t e w waits
        exact inv.watched t e w (Handed.answer_cases all waits).2
      · intro t r' registered
        simp only [Slab.get_insert] at registered
        split at registered
        · rename_i same
          rw [same]
          exact inv.small event.token r found
        · exact inv.small t r' registered
      · intro t r' i registered wants
        simp only [Slab.get_insert] at registered
        split at registered
        · cases registered
          cases wants
        · exact inv.agrees t r' i registered wants
    · have ignored : s.driver.handleEvent event = (none, s.driver) := by
        have absent : s.driver.registrations.get event.token = none := by
          rw [Option.eq_none_iff_forall_ne_some]
          intro r found
          exact known ⟨r, found⟩
        simp [handleEvent, absent]
      rw [ignored]
      refine ⟨fun t e w waits => ?_, fun t e w waits => ?_, inv.small, inv.agrees⟩
      · exact inv.stored t e w (Handed.answer_cases all waits).2
      · exact inv.watched t e w (Handed.answer_cases all waits).2
  · cases stepped

theorem Invariant.step {s s' : Handed MioDriver} {l : WaiterStep} (inv : Invariant s)
    (alone : OneDirection s l) (stepped : waiterStep s l = some s') : Invariant s' := by
  cases l with
  | submitPoll token waker dir registered => exact inv.submitPoll alone stepped
  | event event => exact inv.event stepped

/-- A waker accepted while the other direction is waited for takes the system's
attention away from that direction. -/
theorem Invariant.broken {s s' : Handed MioDriver} {l : WaiterStep} (inv : Invariant s)
    (outside : ¬ OneDirection s l) (stepped : waiterStep s l = some s') : ¬ WaitersKept s' := by
  cases l with
  | event event => exact absurd trivial outside
  | submitPoll token waker dir registered =>
      simp only [OneDirection, Handed.OneDirection, Classical.not_imp] at outside
      obtain ⟨rfl, waiting⟩ := outside
      obtain ⟨w, waits⟩ := Option.ne_none_iff_exists'.mp waiting
      obtain ⟨r, found, -⟩ := inv.stored token _ w waits
      have watches := inv.watched token _ w waits
      have changed : r.interest ≠ some dir.interest := by
        intro same
        have both := inv.agrees token r _ found same
        rw [watches] at both
        cases dir <;> cases both
      have submitted : (s.driver.submitPoll token waker dir.interest (.ok ())) = (.ok (), {
          registrations := s.driver.registrations.insert token
            { r with interest := some dir.interest, waiter := some waker }
          registry := s.driver.registry.insert token dir.interest }) := by
        simp [MioDriver.submitPoll, found, changed]
      simp only [waiterStep, submitted] at stepped
      cases stepped
      intro kept
      have still : s.accept token dir waker token dir.other = some w := by
        rw [Handed.accept_other, waits]
      obtain ⟨-, ⟨registered, now, covers⟩, -⟩ := kept token dir.other w still
      simp only [Slab.get_insert_self, Option.some.injEq] at now
      subst now
      exact dir.other_ne (Direction.watchedBy_interest.mp covers)

end MioDriver

/-! ## AFD polls of the IOCP driver -/

namespace IocpDriver

open Iocp

/-- A poll armed with these events watches this direction. -/
def EventsCover (events : Nat) : Direction → Bool
  | .read => events &&& AFD_POLL_RECEIVE != 0
  | .write => events &&& AFD_POLL_SEND != 0

theorem eventsCover_iff {a b : Direction} :
    EventsCover (interestToAfdEvents a.interest) b = true ↔ b = a := by
  cases a <;> cases b <;> decide

inductive WaiterStep where
  | submitPoll (token : Nat) (waker : Waker) (dir : Direction) (env : ArmEnv)
  | post (i : Nat) (internal : Int) (bytes : Nat) (dosError : Int)
  | interrupt
  | process

/-- The wakers a packet answers: those of the handle its poll was armed for, in the
directions it was armed for. -/
def answered (s : Handed IocpDriver) (entry : Entry) : Nat → Direction → Option Waker :=
  match entry.request with
  | .afdPoll pollToken events =>
      match s.driver.pollOps.get pollToken with
      | some op => s.answer op.registrationToken (EventsCover events)
      | none => s.pending
  | _ => s.pending

/-- The entry of `poll_ops` a poll is armed under is vacant. -/
def waiterStep (s : Handed IocpDriver) : WaiterStep → Option (Handed IocpDriver)
  | .submitPoll token waker dir env =>
      if (s.driver.pollOps.get env.key).isNone then
        match s.driver.submitPoll token waker dir.interest env with
        | (.ok (), d) => some ⟨d, s.accept token dir waker⟩
        | (.error _, d) => some ⟨d, s.pending⟩
      else none
  | .post i internal bytes dosError =>
      some ⟨{ s.driver with port := s.driver.port.post i internal bytes dosError }, s.pending⟩
  | .interrupt => some ⟨{ s.driver with port := s.driver.port.interrupt }, s.pending⟩
  | .process =>
      match s.driver.port.queue with
      | [] => none
      | entry :: _ => some ⟨(s.driver.processNext entry).2, answered s entry⟩

/-- Handles are registered and nobody waits yet. -/
structure Fresh (s : Handed IocpDriver) : Prop where
  idle : ∀ token dir, s.pending token dir = none
  unarmed : ∀ token r, s.driver.registrations.get token = some (.poll r) → r.pollToken = none
  quiet : s.driver.port.outstanding = 0

def waiterMachine : Machine (Handed IocpDriver) WaiterStep where
  start := Fresh
  step := waiterStep

/-- A pending waker is stored, a poll for its direction is with the system, and the
packet of that poll wakes it. -/
def WaitersKept (s : Handed IocpDriver) : Prop :=
  ∀ token dir waker, s.pending token dir = some waker → ∃ r pollToken events,
    s.driver.registrations.get token = some (.poll r) ∧ r.waiter = some waker ∧
    r.pollToken = some pollToken ∧ .afdPoll pollToken events ∈ s.driver.port.outstanding ∧
    EventsCover events dir = true ∧
    ∀ entry, entry.request = .afdPoll pollToken events →
      (s.driver.processEntry entry).1 = some waker

def OneDirection (s : Handed IocpDriver) : WaiterStep → Prop
  | .submitPoll token _ dir _ => s.OneDirection token dir
  | _ => True

/-- The polls that are with the system: poll token and events. -/
def pollOf : Iocp.Request → Option (Nat × Nat)
  | .afdPoll pollToken events => some (pollToken, events)
  | _ => none

def polls (d : IocpDriver) : Multiset (Nat × Nat) := d.port.outstanding.filterMap pollOf

theorem mem_polls {d : IocpDriver} {pollToken events : Nat} :
    (pollToken, events) ∈ d.polls ↔ .afdPoll pollToken events ∈ d.port.outstanding := by
  rw [polls, Multiset.mem_filterMap]
  constructor
  · rintro ⟨request, member, same⟩
    cases request with
    | afdPoll p e =>
        cases same
        exact member
    | interrupt => cases same
    | operation key token serial => cases same
  · intro member
    exact ⟨_, member, rfl⟩

structure Invariant (s : Handed IocpDriver) : Prop where
  stored : ∀ token dir waker, s.pending token dir = some waker → ∃ r pollToken,
    s.driver.registrations.get token = some (.poll r) ∧ r.waiter = some waker ∧
    r.pollToken = some pollToken ∧ s.driver.pollOps.get pollToken = some ⟨token⟩ ∧
    (pollToken, interestToAfdEvents dir.interest) ∈ s.driver.polls
  single : ∀ token dir waker, s.pending token dir = some waker → s.OneDirection token dir
  armed : ∀ token r pollToken, s.driver.registrations.get token = some (.poll r) →
    r.pollToken = some pollToken → ∃ dir waker, s.pending token dir = some waker
  asked : ∀ p ∈ s.driver.polls, ∃ token r, s.driver.pollOps.get p.1 = some ⟨token⟩ ∧
    s.driver.registrations.get token = some (.poll r) ∧ r.pollToken = some p.1
  once : (s.driver.polls.map Prod.fst).Nodup
  onlyPolls : ∀ request ∈ s.driver.port.outstanding, ∀ key token serial,
    request ≠ .operation key token serial

theorem invariant_fresh {s : Handed IocpDriver} (fresh : Fresh s) : Invariant s := by
  have noPolls : s.driver.polls = 0 := by rw [polls, fresh.quiet]; rfl
  constructor
  · intro token dir waker waits
    rw [fresh.idle] at waits
    cases waits
  · intro token dir waker waits
    rw [fresh.idle] at waits
    cases waits
  · intro token r pollToken registered on
    rw [fresh.unarmed token r registered] at on
    cases on
  · rw [noPolls]
    simp
  · rw [noPolls]
    simp
  · rw [fresh.quiet]
    simp

/-! ### What a packet of a poll does -/

theorem processEntry_poll {d : IocpDriver} {entry : Entry} {pollToken events token : Nat}
    {r : Iocp.PollRegistration} (request : entry.request = .afdPoll pollToken events)
    (op : d.pollOps.get pollToken = some ⟨token⟩)
    (registered : d.registrations.get token = some (.poll r)) (own : r.pollToken = some pollToken) :
    d.processEntry entry = (r.waiter,
      { d with pollOps := d.pollOps.remove pollToken }.setPoll token
        { r with pollToken := none, waiter := none }) := by
  have notInterrupt : AFD_POLL_COMPLETION_KEY ≠ INTERRUPT_KEY := by decide
  simp [processEntry, Entry.completionKey, Entry.overlapped, request, notInterrupt, op, registered, own]

theorem processEntry_interrupt {d : IocpDriver} {entry : Entry} (request : entry.request = .interrupt) :
    d.processEntry entry = (none, d) := by
  simp [processEntry, Entry.completionKey, request]

theorem Invariant.kept {s : Handed IocpDriver} (inv : Invariant s) : WaitersKept s := by
  intro token dir waker waits
  obtain ⟨r, pollToken, registered, stored, own, op, member⟩ := inv.stored token dir waker waits
  refine ⟨r, pollToken, _, registered, stored, own, mem_polls.mp member, eventsCover_iff.mpr rfl, ?_⟩
  intro entry request
  rw [processEntry_poll request op registered own]
  exact stored

/-! ### `submit_poll` -/

/-- `d'` has another registration for `token`, and the same ones elsewhere. -/
def Reregistered (d d' : IocpDriver) (token : Nat) (q : Iocp.PollRegistration) : Prop :=
  ∀ j, d'.registrations.get j = if j = token then some (.poll q) else d.registrations.get j

/-- Everything arming an unarmed registration can do. -/
theorem armPollOperation_cases {d d' : IocpDriver} {token : Nat} {interest : Interest} {env : ArmEnv}
    {r : Iocp.PollRegistration} {result : Except IoError Unit}
    (registered : d.registrations.get token = some (.poll r)) (unarmed : r.pollToken = none)
    (vacant : d.pollOps.get env.key = none)
    (armed : d.armPollOperation token interest env = (result, d')) :
    (∃ err, result = .error err ∧ d'.port = d.port ∧ d'.pollOps = d.pollOps ∧ Reregistered d d' token r) ∨
      (result = .ok () ∧ d'.pollOps = d.pollOps.insert env.key ⟨token⟩ ∧
        Port.Pushed d.port (.afdPoll env.key (interestToAfdEvents interest)) d'.port ∧
        Reregistered d d' token { r with pollToken := some env.key }) := by
  obtain ⟨afd, frame⟩ := d.ensureAfdHandle_frame env.opened
  have same : Reregistered d { d with afd := afd } token r := by
    intro j
    split
    · rename_i here
      rw [here]
      exact registered
    · rfl
  unfold armPollOperation at armed
  split at armed
  · rename_i err opened failed
    rw [failed] at frame
    cases frame
    cases armed
    exact .inl ⟨err, rfl, rfl, rfl, same⟩
  · rename_i opened succeeded
    rw [succeeded] at frame
    cases frame
    simp only [registered, unarmed, Option.isSome_none, Bool.false_eq_true, if_false] at armed
    split at armed
    · cases armed
      refine .inr ⟨rfl, rfl, Port.pushed_held _ _, fun j => ?_⟩
      simp only [setPoll, Slab.get_insert]
    · cases armed
      refine .inl ⟨_, rfl, rfl, Slab.remove_insert vacant _, fun j => ?_⟩
      simp only [setPoll, Slab.get_insert]
      rw [← unarmed]

/-- Everything `submit_poll` can do: refuse, which leaves an armed registration as it
was, store the waker over a poll that is armed already, or arm one. -/
theorem submitPoll_cases {d d' : IocpDriver} {token : Nat} {waker : Waker} {interest : Interest}
    {env : ArmEnv} {result : Except IoError Unit} (vacant : d.pollOps.get env.key = none)
    (submitted : d.submitPoll token waker interest env = (result, d')) :
    (∃ err, result = .error err ∧ d'.port = d.port ∧ d'.pollOps = d.pollOps ∧
        (d'.registrations = d.registrations ∨ ∃ r q, d.registrations.get token = some (.poll r) ∧
          r.pollToken = none ∧ q.pollToken = none ∧ Reregistered d d' token q)) ∨
      (∃ r q pollToken, d.registrations.get token = some (.poll r) ∧ r.pollToken = some pollToken ∧
        q.pollToken = some pollToken ∧ q.waiter = some waker ∧ result = .ok () ∧ d'.port = d.port ∧
        d'.pollOps = d.pollOps ∧ Reregistered d d' token q) ∨
      (∃ r q, d.registrations.get token = some (.poll r) ∧ r.pollToken = none ∧
        q.pollToken = some env.key ∧ q.waiter = some waker ∧ result = .ok () ∧
        d'.pollOps = d.pollOps.insert env.key ⟨token⟩ ∧
        Port.Pushed d.port (.afdPoll env.key (interestToAfdEvents interest)) d'.port ∧
        Reregistered d d' token q) := by
  have onto : ∀ {a b : IocpDriver} {q q' : Iocp.PollRegistration},
      Reregistered (a.setPoll token q') b token q → Reregistered a b token q := by
    intro a b q q' changed j
    rw [changed j]
    simp only [setPoll, Slab.get_insert]
    split <;> simp_all
  unfold submitPoll at submitted
  split at submitted
  · cases submitted
    exact .inl ⟨_, rfl, rfl, rfl, .inl rfl⟩
  · cases submitted
    exact .inl ⟨_, rfl, rfl, rfl, .inl rfl⟩
  · rename_i r registered
    simp only [updateWaiter_eq] at submitted
    cases on : r.pollToken with
    | some pollToken =>
        simp only [on, Option.isNone_some, Bool.false_eq_true, if_false] at submitted
        cases submitted
        refine .inr (.inl ⟨r, { r with interest := interest, waiter := some waker, pollToken := some pollToken },
          pollToken, registered, on, rfl, rfl, rfl, rfl, rfl, fun j => ?_⟩)
        simp only [setPoll, Slab.get_insert]
    | none =>
        simp only [on, Option.isNone_none, if_true] at submitted
        have here : (d.setPoll token { r with interest := interest, waiter := some waker, pollToken := none }
            ).registrations.get token =
            some (.poll { r with interest := interest, waiter := some waker, pollToken := none }) :=
          Slab.get_insert_self _ _ _
        rcases armPollOperation_cases here rfl vacant submitted with
          ⟨err, rfl, port, pollOps, changed⟩ | ⟨rfl, pollOps, pushed, changed⟩
        · exact .inl ⟨err, rfl, port, pollOps, .inr ⟨r, _, registered, on, rfl, onto changed⟩⟩
        · exact .inr (.inr ⟨r, { r with interest := interest, waiter := some waker, pollToken := some env.key },
            registered, on, rfl, rfl, rfl, pollOps, pushed, onto changed⟩)

theorem polls_of_pushed {d d' : IocpDriver} {pollToken events : Nat}
    (pushed : Port.Pushed d.port (.afdPoll pollToken events) d'.port) :
    d'.polls = (pollToken, events) ::ₘ d.polls := by
  rw [polls, polls, pushed.outstanding, Multiset.filterMap_cons_some pollOf _ _ rfl]

/-- An unarmed registration has nobody waiting. -/
theorem Invariant.nobody {s : Handed IocpDriver} (inv : Invariant s) {token : Nat}
    {r : Iocp.PollRegistration} (registered : s.driver.registrations.get token = some (.poll r))
    (unarmed : r.pollToken = none) (dir : Direction) : s.pending token dir = none := by
  cases waits : s.pending token dir with
  | none => rfl
  | some w =>
      obtain ⟨r', pollToken, registered', -, own, -⟩ := inv.stored token dir w waits
      cases registered.symm.trans registered'
      rw [unarmed] at own
      cases own

/-- The invariant reads the tables, and of the port only the polls. -/
theorem Invariant.of_same {s : Handed IocpDriver} (inv : Invariant s) {d : IocpDriver}
    (registrations : d.registrations = s.driver.registrations) (pollOps : d.pollOps = s.driver.pollOps)
    (same : d.polls = s.driver.polls)
    (onlyPolls : ∀ request ∈ d.port.outstanding, ∀ key token serial,
      request ≠ .operation key token serial) : Invariant ⟨d, s.pending⟩ := by
  refine ⟨?_, inv.single, ?_, ?_, ?_, onlyPolls⟩
  · show ∀ token dir waker, _ → ∃ r pollToken, d.registrations.get token = _ ∧ _ ∧ _ ∧
      d.pollOps.get pollToken = _ ∧ _ ∈ d.polls
    rw [registrations, pollOps, same]
    exact inv.stored
  · show ∀ token r pollToken, d.registrations.get token = _ → _
    rw [registrations]
    exact inv.armed
  · show ∀ p ∈ d.polls, ∃ token r, d.pollOps.get p.1 = _ ∧ d.registrations.get token = _ ∧ _
    rw [registrations, pollOps, same]
    exact inv.asked
  · show (d.polls.map Prod.fst).Nodup
    rw [same]
    exact inv.once

/-- Changing the registration of a handle nobody waits on, and keeping it unarmed. -/
theorem Invariant.refused {s : Handed IocpDriver} (inv : Invariant s) {d : IocpDriver} {token : Nat}
    {r q : Iocp.PollRegistration} (registered : s.driver.registrations.get token = some (.poll r))
    (unarmed : r.pollToken = none) (still : q.pollToken = none) (port : d.port = s.driver.port)
    (pollOps : d.pollOps = s.driver.pollOps) (changed : Reregistered s.driver d token q) :
    Invariant ⟨d, s.pending⟩ := by
  have same : d.polls = s.driver.polls := by rw [polls, polls, port]
  constructor
  · intro t dir w waits
    obtain ⟨r', pollToken, registered', stored, own, op, member⟩ := inv.stored t dir w waits
    have elsewhere : t ≠ token := by
      rintro rfl
      rw [inv.nobody registered unarmed] at waits
      cases waits
    refine ⟨r', pollToken, ?_, stored, own, pollOps ▸ op, same ▸ member⟩
    show d.registrations.get t = _
    rw [changed t, if_neg elsewhere, registered']
  · exact inv.single
  · intro t r' pollToken registered' on
    replace registered' : d.registrations.get t = some (.poll r') := registered'
    rw [changed t] at registered'
    split at registered'
    · cases registered'
      rw [still] at on
      cases on
    · exact inv.armed t r' pollToken registered' on
  · intro p member
    obtain ⟨t, r', op, registered', own⟩ := inv.asked p (same ▸ member)
    refine ⟨t, r', pollOps ▸ op, ?_, own⟩
    show d.registrations.get t = _
    rw [changed t, if_neg ?_, registered']
    rintro rfl
    cases registered.symm.trans registered'
    rw [unarmed] at own
    cases own
  · show (d.polls.map Prod.fst).Nodup
    rw [same]
    exact inv.once
  · show ∀ request ∈ d.port.outstanding, _
    rw [port]
    exact inv.onlyPolls

/-- A newer waker for the direction that is armed. -/
theorem Invariant.replaced {s : Handed IocpDriver} (inv : Invariant s) {d : IocpDriver} {token : Nat}
    {dir : Direction} {waker : Waker} {r q : Iocp.PollRegistration} {pollToken : Nat}
    (alone : s.OneDirection token dir) (registered : s.driver.registrations.get token = some (.poll r))
    (on : r.pollToken = some pollToken) (own : q.pollToken = some pollToken)
    (stored : q.waiter = some waker) (port : d.port = s.driver.port)
    (pollOps : d.pollOps = s.driver.pollOps) (changed : Reregistered s.driver d token q) :
    Invariant ⟨d, s.accept token dir waker⟩ := by
  have same : d.polls = s.driver.polls := by rw [polls, polls, port]
  -- the poll that is armed is one for this direction
  obtain ⟨op, member⟩ : s.driver.pollOps.get pollToken = some ⟨token⟩ ∧
      (pollToken, interestToAfdEvents dir.interest) ∈ s.driver.polls := by
    obtain ⟨e, w, waits⟩ := inv.armed token r pollToken registered on
    rcases e.eq_or_eq_other dir with rfl | rfl
    · obtain ⟨r', p, registered', -, on', op, member⟩ := inv.stored token e w waits
      cases registered.symm.trans registered'
      cases on.symm.trans on'
      exact ⟨op, member⟩
    · rw [alone] at waits
      cases waits
  constructor
  · intro t e w waits
    rcases Handed.accept_cases alone waits with ⟨rfl, rfl, rfl⟩ | ⟨elsewhere, before⟩
    · refine ⟨q, pollToken, ?_, stored, own, pollOps ▸ op, same ▸ member⟩
      exact (changed t).trans (if_pos rfl)
    · obtain ⟨r', p, registered', stored', own', op', member'⟩ := inv.stored t e w before
      refine ⟨r', p, ?_, stored', own', pollOps ▸ op', same ▸ member'⟩
      exact (changed t).trans ((if_neg elsewhere).trans registered')
  · intro t e w waits
    exact Handed.accept_single alone inv.single waits
  · intro t r' p registered' on'
    replace registered' : d.registrations.get t = some (.poll r') := registered'
    rw [changed t] at registered'
    split at registered'
    · rename_i here
      exact ⟨dir, waker, by rw [here]; exact Handed.accept_self s token dir waker⟩
    · rename_i elsewhere
      obtain ⟨e, w, waits⟩ := inv.armed t r' p registered' on'
      exact ⟨e, w, (if_neg fun both => elsewhere both.1).trans waits⟩
  · intro p member'
    obtain ⟨t, r', op', registered', own'⟩ := inv.asked p (same ▸ member')
    by_cases here : t = token
    · subst here
      cases registered.symm.trans registered'
      cases on.symm.trans own'
      exact ⟨t, q, pollOps ▸ op', (changed t).trans (if_pos rfl), own⟩
    · exact ⟨t, r', pollOps ▸ op', (changed t).trans ((if_neg here).trans registered'), own'⟩
  · show (d.polls.map Prod.fst).Nodup
    rw [same]
    exact inv.once
  · show ∀ request ∈ d.port.outstanding, _
    rw [port]
    exact inv.onlyPolls

/-- The first waker of a handle, and the poll armed for it. -/
theorem Invariant.armedNow {s : Handed IocpDriver} (inv : Invariant s) {d : IocpDriver} {token key : Nat}
    {dir : Direction} {waker : Waker} {r q : Iocp.PollRegistration}
    (registered : s.driver.registrations.get token = some (.poll r)) (unarmed : r.pollToken = none)
    (own : q.pollToken = some key) (stored : q.waiter = some waker)
    (vacant : s.driver.pollOps.get key = none)
    (pollOps : d.pollOps = s.driver.pollOps.insert key ⟨token⟩)
    (pushed : Port.Pushed s.driver.port (.afdPoll key (interestToAfdEvents dir.interest)) d.port)
    (changed : Reregistered s.driver d token q) : Invariant ⟨d, s.accept token dir waker⟩ := by
  have alone : s.OneDirection token dir := inv.nobody registered unarmed dir.other
  have grown := polls_of_pushed pushed
  -- no poll was armed under the entry that is handed out
  have fresh : ∀ p ∈ s.driver.polls, p.1 ≠ key := by
    intro p member same
    obtain ⟨t, r', op, -⟩ := inv.asked p member
    rw [same, vacant] at op
    cases op
  have others : ∀ k op, s.driver.pollOps.get k = some op → d.pollOps.get k = some op := by
    intro k op found
    rw [pollOps, Slab.get_insert, if_neg ?_, found]
    rintro rfl
    rw [vacant] at found
    cases found
  constructor
  · intro t e w waits
    rcases Handed.accept_cases alone waits with ⟨rfl, rfl, rfl⟩ | ⟨elsewhere, before⟩
    · refine ⟨q, key, (changed t).trans (if_pos rfl), stored, own, ?_, ?_⟩
      · show d.pollOps.get key = _
        rw [pollOps, Slab.get_insert_self]
      · show _ ∈ d.polls
        rw [grown]
        exact Multiset.mem_cons_self _ _
    · obtain ⟨r', p, registered', stored', own', op', member'⟩ := inv.stored t e w before
      refine ⟨r', p, (changed t).trans ((if_neg elsewhere).trans registered'), stored', own',
        others p _ op', ?_⟩
      show _ ∈ d.polls
      rw [grown]
      exact Multiset.mem_cons_of_mem member'
  · intro t e w waits
    exact Handed.accept_single alone inv.single waits
  · intro t r' p registered' on'
    replace registered' : d.registrations.get t = some (.poll r') := registered'
    rw [changed t] at registered'
    split at registered'
    · rename_i here
      exact ⟨dir, waker, by rw [here]; exact Handed.accept_self s token dir waker⟩
    · rename_i elsewhere
      obtain ⟨e, w, waits⟩ := inv.armed t r' p registered' on'
      exact ⟨e, w, (if_neg fun both => elsewhere both.1).trans waits⟩
  · intro p member
    replace member : p ∈ d.polls := member
    rw [grown, Multiset.mem_cons] at member
    rcases member with rfl | old
    · refine ⟨token, q, ?_, (changed token).trans (if_pos rfl), own⟩
      show d.pollOps.get key = _
      rw [pollOps, Slab.get_insert_self]
    · obtain ⟨t, r', op', registered', own'⟩ := inv.asked p old
      refine ⟨t, r', others _ _ op', (changed t).trans ((if_neg ?_).trans registered'), own'⟩
      rintro rfl
      cases registered.symm.trans registered'
      rw [unarmed] at own'
      cases own'
  · show (d.polls.map Prod.fst).Nodup
    rw [grown, Multiset.map_cons, Multiset.nodup_cons]
    refine ⟨?_, inv.once⟩
    rw [Multiset.mem_map]
    rintro ⟨p, member, same⟩
    exact fresh p member same
  · intro request member
    replace member : request ∈ d.port.outstanding := member
    rw [pushed.outstanding, Multiset.mem_cons] at member
    rcases member with rfl | old
    · intro k t n impossible
      cases impossible
    · exact inv.onlyPolls request old

theorem Invariant.submitPoll {s s' : Handed IocpDriver} (inv : Invariant s) {token : Nat} {waker : Waker}
    {dir : Direction} {env : ArmEnv} (alone : s.OneDirection token dir)
    (stepped : waiterStep s (.submitPoll token waker dir env) = some s') : Invariant s' := by
  simp only [waiterStep] at stepped
  split at stepped
  · rename_i free
    have vacant : s.driver.pollOps.get env.key = none := Option.isNone_iff_eq_none.mp free
    split at stepped
    · rename_i d submitted
      cases stepped
      rcases submitPoll_cases vacant submitted with ⟨_, impossible, _⟩ |
        ⟨r, q, pollToken, registered, on, own, stored, -, port, pollOps, changed⟩ |
        ⟨r, q, registered, unarmed, own, stored, -, pollOps, pushed, changed⟩
      · cases impossible
      · exact inv.replaced alone registered on own stored port pollOps changed
      · exact inv.armedNow registered unarmed own stored vacant pollOps pushed changed
    · rename_i err d submitted
      cases stepped
      rcases submitPoll_cases vacant submitted with ⟨_, -, port, pollOps, same | refused⟩ |
        ⟨_, _, _, _, _, _, _, impossible, _⟩ | ⟨_, _, _, _, _, _, impossible, _⟩
      · refine inv.of_same same pollOps (by rw [polls, polls, port]) ?_
        rw [port]
        exact inv.onlyPolls
      · obtain ⟨r, q, registered, unarmed, still, changed⟩ := refused
        exact inv.refused registered unarmed still port pollOps changed
      · cases impossible
      · cases impossible
  · cases stepped

/-! ### Packets -/

theorem polls_of_front {d : IocpDriver} {entry : Entry} {rest : List Entry} {pollToken events : Nat}
    (front : d.port.queue = entry :: rest) (request : entry.request = .afdPoll pollToken events) :
    d.polls = (pollToken, events) ::ₘ polls { d with port := d.port.pop } := by
  rw [polls, polls, Port.outstanding_pop front, request, Multiset.filterMap_cons_some pollOf _ _ rfl]

/-- A poll was armed for the direction that is waited for, and nothing else is. -/
theorem Invariant.covers {s : Handed IocpDriver} (inv : Invariant s) {token pollToken events : Nat}
    {r : Iocp.PollRegistration} (mine : (pollToken, events) ∈ s.driver.polls)
    (registered : s.driver.registrations.get token = some (.poll r)) (own : r.pollToken = some pollToken)
    (e : Direction) (w : Waker) (waits : s.pending token e = some w) : EventsCover events e = true := by
  obtain ⟨dir, waker, waiting⟩ := inv.armed token r pollToken registered own
  have armedFor : events = interestToAfdEvents dir.interest := by
    obtain ⟨r', p, registered', -, own', -, member⟩ := inv.stored token dir waker waiting
    cases registered.symm.trans registered'
    cases own.symm.trans own'
    have same := Multiset.inj_on_of_nodup_map inv.once _ mine _ member rfl
    exact congrArg Prod.snd same
  rw [armedFor, eventsCover_iff]
  rcases e.eq_or_eq_other dir with rfl | rfl
  · rfl
  · rw [inv.single token dir waker waiting] at waits
    cases waits

/-- The packet of a poll answers the one task that waits on its handle. -/
theorem Invariant.pollPacket {s : Handed IocpDriver} (inv : Invariant s) {entry : Entry}
    {rest : List Entry} {pollToken events : Nat} (front : s.driver.port.queue = entry :: rest)
    (request : entry.request = .afdPoll pollToken events) :
    Invariant ⟨(s.driver.processNext entry).2, answered s entry⟩ := by
  have taken := polls_of_front front request
  have mine : (pollToken, events) ∈ s.driver.polls := by
    rw [taken]
    exact Multiset.mem_cons_self _ _
  obtain ⟨token, r, op, registered, own⟩ := inv.asked _ mine
  have all := inv.covers mine registered own
  have pendingNow : answered s entry = s.answer token (EventsCover events) := by
    simp only [answered, request, op]
  have gone : ∀ p ∈ polls { s.driver with port := s.driver.port.pop }, p.1 ≠ pollToken := by
    intro p left same
    have nodup := inv.once
    rw [taken, Multiset.map_cons, Multiset.nodup_cons] at nodup
    exact nodup.1 (Multiset.mem_map.mpr ⟨p, left, same⟩)
  have processed : (s.driver.processNext entry).2 =
      { s.driver with port := s.driver.port.pop, pollOps := s.driver.pollOps.remove pollToken }.setPoll
        token { r with pollToken := none, waiter := none } := by
    rw [processNext,
      processEntry_poll (d := { s.driver with port := s.driver.port.pop }) request op registered own]
  rw [processed, pendingNow]
  constructor
  · intro t e w waits'
    obtain ⟨elsewhere, before⟩ := Handed.answer_cases all waits'
    obtain ⟨r', p, registered', stored', own', op', member'⟩ := inv.stored t e w before
    have different : p ≠ pollToken := by
      rintro rfl
      cases op.symm.trans op'
      exact elsewhere rfl
    refine ⟨r', p, ?_, stored', own', ?_, ?_⟩
    · simp only [setPoll, Slab.get_insert, if_neg elsewhere, registered']
    · simp only [setPoll, Slab.get_remove, if_neg different, op']
    · rw [taken, Multiset.mem_cons] at member'
      rcases member' with same | left
      · cases same
        exact absurd rfl different
      · exact left
  · intro t e w waits'
    obtain ⟨elsewhere, before⟩ := Handed.answer_cases all waits'
    show s.answer token (EventsCover events) t e.other = none
    rw [Handed.answer, if_neg fun both => elsewhere both.1]
    exact inv.single t e w before
  · intro t r' p registered' on
    simp only [setPoll, Slab.get_insert] at registered'
    split at registered'
    · cases registered'
      cases on
    · rename_i elsewhere
      obtain ⟨e, w, waits'⟩ := inv.armed t r' p registered' on
      exact ⟨e, w, (if_neg fun both => elsewhere both.1).trans waits'⟩
  · intro p left
    replace left : p ∈ polls { s.driver with port := s.driver.port.pop } := left
    obtain ⟨t, r', op', registered', own'⟩ :=
      inv.asked p (by rw [taken]; exact Multiset.mem_cons_of_mem left)
    have elsewhere : t ≠ token := by
      rintro rfl
      cases registered.symm.trans registered'
      cases own.symm.trans own'
      exact gone p left rfl
    refine ⟨t, r', ?_, ?_, own'⟩
    · simp only [setPoll, Slab.get_remove, if_neg (gone p left), op']
    · simp only [setPoll, Slab.get_insert, if_neg elsewhere, registered']
  · have nodup := inv.once
    rw [taken, Multiset.map_cons, Multiset.nodup_cons] at nodup
    exact nodup.2
  · intro req left
    apply inv.onlyPolls req
    rw [Port.outstanding_pop front]
    exact Multiset.mem_cons_of_mem left

theorem Invariant.step {s s' : Handed IocpDriver} {l : WaiterStep} (inv : Invariant s)
    (alone : OneDirection s l) (stepped : waiterStep s l = some s') : Invariant s' := by
  cases l with
  | submitPoll token waker dir env => exact inv.submitPoll alone stepped
  | post i internal bytes dosError =>
      cases stepped
      have moved := Port.moved_post s.driver.port i internal bytes dosError
      refine inv.of_same rfl rfl ?_ ?_
      · rw [polls, polls, moved.outstanding]
      · rw [moved.outstanding]
        exact inv.onlyPolls
  | interrupt =>
      cases stepped
      have pushed := Port.pushed_interrupt s.driver.port
      refine inv.of_same rfl rfl ?_ ?_
      · rw [polls, polls, pushed.outstanding, Multiset.filterMap_cons_none _ _ rfl]
      · intro request member
        rw [pushed.outstanding, Multiset.mem_cons] at member
        rcases member with rfl | old
        · intro key token serial impossible
          cases impossible
        · exact inv.onlyPolls request old
  | process =>
      simp only [waiterStep] at stepped
      split at stepped
      · cases stepped
      · rename_i entry rest front
        cases stepped
        have member : entry.request ∈ s.driver.port.outstanding := by
          rw [Port.outstanding_pop front]
          exact Multiset.mem_cons_self _ _
        cases request : entry.request with
        | operation key token serial => exact absurd request (inv.onlyPolls _ member key token serial)
        | afdPoll pollToken events => exact inv.pollPacket front request
        | interrupt =>
            have same : answered s entry = s.pending := by simp only [answered, request]
            rw [processNext, processEntry_interrupt request, same]
            refine inv.of_same rfl rfl ?_ ?_
            · rw [polls, polls, Port.outstanding_pop front, request,
                Multiset.filterMap_cons_none _ _ rfl]
            · intro req left
              apply inv.onlyPolls req
              rw [Port.outstanding_pop front]
              exact Multiset.mem_cons_of_mem left

/-- A waker accepted while the other direction is waited for replaces the waker
stored for that direction, under a poll that does not watch its own. -/
theorem Invariant.broken {s s' : Handed IocpDriver} {l : WaiterStep} (inv : Invariant s)
    (outside : ¬ OneDirection s l) (stepped : waiterStep s l = some s') : ¬ WaitersKept s' := by
  cases l with
  | post i internal bytes dosError => exact absurd trivial outside
  | interrupt => exact absurd trivial outside
  | process => exact absurd trivial outside
  | submitPoll token waker dir env =>
      obtain ⟨w, waits⟩ := Option.ne_none_iff_exists'.mp outside
      obtain ⟨r, pollToken, registered, -, own, op, member⟩ := inv.stored token _ w waits
      simp only [waiterStep] at stepped
      split at stepped
      · have submitted : s.driver.submitPoll token waker dir.interest env = (.ok (),
            s.driver.setPoll token { r with interest := dir.interest, waiter := some waker }) := by
          simp [IocpDriver.submitPoll, registered, own]
        simp only [submitted] at stepped
        cases stepped
        intro kept
        obtain ⟨r', p, events, registered', -, own', asked, covers, -⟩ :=
          kept token dir waker (Handed.accept_self s token dir waker)
        simp only [setPoll, Slab.get_insert_self, Option.some.injEq,
          Iocp.HandleRegistration.poll.injEq] at registered'
        subst registered'
        cases own.symm.trans own'
        have same := Multiset.inj_on_of_nodup_map inv.once _ (mem_polls.mpr asked) _ member rfl
        cases same
        exact dir.other_ne (eventsCover_iff.mp covers).symm
      · cases stepped

end IocpDriver

/-- **When poll waiters are kept**, in the mio driver and for the AFD polls of the
IOCP driver: over every run, exactly if no waker is accepted while the other
direction of its handle is waited for. -/
theorem poll_waiters_kept_iff {s t : Handed MioDriver} {u v : Handed IocpDriver}
    {mio : List MioDriver.WaiterStep} {iocp : List IocpDriver.WaiterStep}
    (mioFresh : MioDriver.Fresh s) (iocpFresh : IocpDriver.Fresh u)
    (mioRan : MioDriver.waiterMachine.exec s mio = some t)
    (iocpRan : IocpDriver.waiterMachine.exec u iocp = some v) :
    (MioDriver.waiterMachine.Throughout MioDriver.WaitersKept s mio ↔
        MioDriver.waiterMachine.AllSteps MioDriver.OneDirection s mio) ∧
      (IocpDriver.waiterMachine.Throughout IocpDriver.WaitersKept u iocp ↔
        IocpDriver.waiterMachine.AllSteps IocpDriver.OneDirection u iocp) := by
  constructor
  · exact Machine.throughout_iff_allSteps (M := MioDriver.waiterMachine)
      (fun _ _ _ inv alone stepped => MioDriver.Invariant.step inv alone stepped)
      (fun _ inv => inv.kept)
      (fun _ _ _ inv outside stepped => MioDriver.Invariant.broken inv outside stepped)
      (MioDriver.invariant_fresh mioFresh) mioRan
  · exact Machine.throughout_iff_allSteps (M := IocpDriver.waiterMachine)
      (fun _ _ _ inv alone stepped => IocpDriver.Invariant.step inv alone stepped)
      (fun _ inv => inv.kept)
      (fun _ _ _ inv outside stepped => IocpDriver.Invariant.broken inv outside stepped)
      (IocpDriver.invariant_fresh iocpFresh) iocpRan

/-! ## A reader and a writer on one socket -/

/-- One handle, under token 0. -/
def mioHandle : Handed MioDriver :=
  ⟨(MioDriver.new.registerHandle 3 .readable 0 (.ok ())).2, fun _ _ => none⟩

theorem mioHandle_fresh : MioDriver.Fresh mioHandle := by
  have only : ∀ token r, mioHandle.driver.registrations.get token = some r →
      token = 0 ∧ r = { fd := 3, waiter := none, interest := some .readable } := by
    intro token r registered
    simp only [mioHandle, MioDriver.registerHandle, MioDriver.new, Slab.get_insert, Slab.get_empty]
      at registered
    split at registered
    · rename_i same
      exact ⟨same, (Option.some.inj registered).symm⟩
    · cases registered
  refine ⟨fun _ _ => rfl, ?_, ?_⟩
  · intro token r registered
    rw [(only token r registered).1]
    decide
  · intro token r i registered wants
    obtain ⟨rfl, rfl⟩ := only token r registered
    cases wants
    rfl

/-- One socket in poll mode, under token 0. -/
def iocpSocket : Handed IocpDriver :=
  ⟨(IocpDriver.new.registerHandleWithMode .readable .poll ⟨0, .ok 7, .ok (), .ok ()⟩).2, fun _ _ => none⟩

theorem iocpSocket_fresh : IocpDriver.Fresh iocpSocket := by
  refine ⟨fun _ _ => rfl, ?_, rfl⟩
  intro token r registered
  simp only [iocpSocket, IocpDriver.registerHandleWithMode, IocpDriver.ensureAfdHandle, IocpDriver.new,
    IocpDriver.setPoll, Bool.false_eq_true, if_false, Slab.get_insert, Slab.get_empty] at registered
  split at registered
  · cases registered
    rfl
  · cases registered

/-- A reader waits and is woken, then a writer waits. -/
def readThenWrite : List MioDriver.WaiterStep :=
  [.submitPoll 0 ⟨1⟩ .read (.ok ()), .event ⟨0, .readable⟩, .submitPoll 0 ⟨2⟩ .write (.ok ())]

/-- The same with an AFD poll and its packet. -/
def pollThenWrite : List IocpDriver.WaiterStep :=
  [.submitPoll 0 ⟨1⟩ .read ⟨.ok (), 0, 0, 0⟩, .post 0 0 0 0, .process, .submitPoll 0 ⟨2⟩ .write ⟨.ok (), 1, 0, 0⟩]

theorem poll_waiters_kept_in_turn :
    MioDriver.waiterMachine.Throughout MioDriver.WaitersKept mioHandle readThenWrite ∧
      IocpDriver.waiterMachine.Throughout IocpDriver.WaitersKept iocpSocket pollThenWrite := by
  have exactly := @poll_waiters_kept_iff _ _ _ _ readThenWrite pollThenWrite
    mioHandle_fresh iocpSocket_fresh rfl rfl
  refine ⟨exactly.1.mpr ?_, exactly.2.mpr ?_⟩
  · refine ⟨fun _ => rfl, fun a accepted => ⟨trivial, fun b answered => ⟨fun _ => ?_, fun _ _ => trivial⟩⟩⟩
    cases accepted
    cases answered
    rfl
  · refine ⟨rfl, fun a accepted => ⟨trivial, fun b posted => ⟨trivial, fun c answered => ⟨?_, fun _ _ => trivial⟩⟩⟩⟩
    cases accepted
    cases posted
    cases answered
    rfl

/-- A writer is accepted while a reader waits: the reader's waker is gone from the
registration. -/
theorem writer_discards_reader :
    (∃ s, MioDriver.Fresh mioHandle ∧ MioDriver.waiterMachine.exec mioHandle
        [.submitPoll 0 ⟨1⟩ .read (.ok ()), .submitPoll 0 ⟨2⟩ .write (.ok ())] = some s ∧
        ¬ MioDriver.WaitersKept s) ∧
      ∃ s, IocpDriver.Fresh iocpSocket ∧ IocpDriver.waiterMachine.exec iocpSocket
        [.submitPoll 0 ⟨1⟩ .read ⟨.ok (), 0, 0, 0⟩, .submitPoll 0 ⟨2⟩ .write ⟨.ok (), 1, 0, 0⟩] = some s ∧
        ¬ IocpDriver.WaitersKept s := by
  constructor
  · refine ⟨_, mioHandle_fresh, rfl, fun kept => ?_⟩
    obtain ⟨⟨r, registered, stored⟩, -⟩ := kept 0 .read ⟨1⟩ rfl
    cases registered
    cases stored
  · refine ⟨_, iocpSocket_fresh, rfl, fun kept => ?_⟩
    obtain ⟨r, _, _, registered, stored, -⟩ := kept 0 .read ⟨1⟩ rfl
    cases registered
    cases stored

end Vibeio.Driver
