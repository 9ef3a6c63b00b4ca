/-
# Driver.Waiters -- the waker a driver keeps for a handle

What a caller of `submit_poll` counts on: the driver keeps the waker it accepted last, and
whatever the driver handles afterwards wakes that waker or leaves it where it is.  The lemmas
say this of the mio driver, which has one slot for a handle, and of the io_uring driver, which
has one for each direction and picks it by the mask it keeps.
-/
import Vibeio.Driver.PollWaiters
import Vibeio.Driver.UringPoll

namespace Vibeio.Driver

set_option autoImplicit false

open Vibeio.Theory

/-! ## The mio driver -/

namespace MioDriver

/-- The waker in the slot of a handle. -/
def waiterOf (d : MioDriver) (token : Nat) : Option Waker := (d.registrations.get token).bind (·.waiter)

theorem waiterOf_insert (registrations : Slab MioRegistration) (registry : Slab Interest) (token j : Nat)
    (r : MioRegistration) : waiterOf ⟨registrations.insert j r, registry⟩ token =
      if token = j then r.waiter else waiterOf ⟨registrations, registry⟩ token := by
  simp only [waiterOf, Slab.get_insert]
  split <;> rfl

/-- `submit_poll` keeps the waker, or it is refused and changes nothing. -/
theorem submitPoll_waiterOf (d : MioDriver) (token : Nat) (waker : Waker) (interest : Interest)
    (registered : Except IoError Unit) :
    ((d.submitPoll token waker interest registered).1 = .ok () ∧
        (d.submitPoll token waker interest registered).2.waiterOf token = some waker) ∨
      ∃ err, d.submitPoll token waker interest registered = (.error err, d) := by
  rcases submitPoll_cases (Prod.eta (d.submitPoll token waker interest registered)).symm with
    ⟨err, failed, same⟩ | ⟨r, -, -, -, accepted, stored⟩ | ⟨r, -, -, accepted, stored⟩
  · exact Or.inr ⟨err, Prod.ext failed same⟩
  · left
    refine ⟨accepted, ?_⟩
    rw [stored, waiterOf_insert, if_pos rfl]
  · left
    refine ⟨accepted, ?_⟩
    rw [stored, waiterOf_insert, if_pos rfl]

/-- An event wakes the waker in its slot and leaves the other slots alone. -/
theorem handleEvent_waiterOf {d : MioDriver} {token : Nat} {waker : Waker}
    (stored : d.waiterOf token = some waker) (event : Event) :
    (d.handleEvent event).1 = some waker ∨
      ((token < USIZE_MAX → event.token ≠ token) ∧ (d.handleEvent event).2.waiterOf token = some waker) := by
  obtain ⟨r, registered, waits⟩ := Option.bind_eq_some_iff.mp stored
  simp only [handleEvent]
  split
  · rename_i interrupt
    exact Or.inr ⟨by omega, stored⟩
  · split
    · rename_i absent
      right
      refine ⟨fun _ same => ?_, stored⟩
      rw [same, registered] at absent
      cases absent
    · rename_i q found
      rcases eq_or_ne event.token token with same | different
      · left
        rw [same, registered] at found
        cases found
        exact waits
      · right
        refine ⟨fun _ => different, ?_⟩
        rw [waiterOf_insert, if_neg different.symm]
        exact stored

end MioDriver

/-! ## The io_uring driver -/

def PollRegistration.waiterIn (r : PollRegistration) : Direction → Option Waker
  | .read => r.waiterRead
  | .write => r.waiterWrite

namespace UringDriver

/-- The waker in the slot of a direction of a handle. -/
def waiterOf (d : UringDriver) (token : Nat) (dir : Direction) : Option Waker :=
  match d.registrations.get token with
  | some (.poll r) => r.waiterIn dir
  | _ => none

/-- Where somebody waits in `dir`, the mask kept for the handle is that of `dir`. -/
def Masked (d : UringDriver) (token : Nat) (dir : Direction) : Prop :=
  ∀ r, d.registrations.get token = some (.poll r) → (r.waiterIn dir).isSome = true →
    r.pollMask = interestToPollMask dir.interest

variable {d : UringDriver} {token : Nat} {dir : Direction} {waker : Waker}

theorem waiterOf_eq_some :
    d.waiterOf token dir = some waker ↔
      ∃ r, d.registrations.get token = some (.poll r) ∧ r.waiterIn dir = some waker := by
  unfold waiterOf
  split
  · rename_i r registered
    simp [registered]
  · rename_i absent
    constructor
    · intro impossible
      cases impossible
    · rintro ⟨r, registered, -⟩
      exact absurd registered (absent r)

theorem armPoll_waiterIn (r : PollRegistration) (waker : Waker) (dir : Direction) :
    (armPoll r waker dir.interest).1.waiterIn dir = some waker ∧
      (armPoll r waker dir.interest).1.pollMask = interestToPollMask dir.interest := by
  cases dir with
  | read =>
      rw [armPoll_read r waker rfl]
      exact ⟨rfl, rfl⟩
  | write =>
      rw [armPoll_write r waker rfl]
      exact ⟨rfl, rfl⟩

theorem disarmPoll_waiterIn {r : PollRegistration} (mask : r.pollMask = interestToPollMask dir.interest) :
    (disarmPoll r).waiterIn dir = none := by
  cases dir <;>
    simp [disarmPoll, mask, Direction.interest, Interest.isWritable, Interest.isReadable,
      PollRegistration.waiterIn]

/-- A poll drained under the mask of `dir` takes its waker out. -/
theorem drainPoll_masked {r : PollRegistration} (mask : r.pollMask = interestToPollMask dir.interest) :
    (drainPoll r).1 = r.waiterIn dir ∧ (drainPoll r).2.waiterIn dir = none := by
  cases dir <;>
    simp [drainPoll, mask, Direction.interest, Interest.isWritable, Interest.isReadable,
      PollRegistration.waiterIn]

theorem drainPoll_vacant {r : PollRegistration} (vacant : r.waiterIn dir = none) :
    (drainPoll r).2.waiterIn dir = none := by
  unfold drainPoll
  cases dir <;> simp only [PollRegistration.waiterIn] at vacant ⊢ <;> split <;>
    first | rfl | exact vacant | (simp only; split <;> first | rfl | exact vacant)

theorem pushPollAdd_registrations (d : UringDriver) (token : Nat) (fd : Int) (mask : Nat) (submit : Enter) :
    (d.pushPollAdd token fd mask submit).2.registrations = d.registrations := by
  unfold pushPollAdd pushEntry
  split <;> rfl

/-- The registration after `submit_poll`: refused as it was, holding the new waker under the
mask of its direction, or emptied because the push failed. -/
theorem submitPoll_waiterIn (d : UringDriver) (token : Nat) (waker : Waker) (dir : Direction) (submit : Enter) :
    (∃ err, d.submitPoll token waker dir.interest submit = (.error err, d)) ∨
      ∃ r, (d.submitPoll token waker dir.interest submit).2.registrations.get token = some (.poll r) ∧
        (((d.submitPoll token waker dir.interest submit).1 = .ok () ∧ r.waiterIn dir = some waker ∧
            r.pollMask = interestToPollMask dir.interest) ∨
          ((∃ err, (d.submitPoll token waker dir.interest submit).1 = .error err) ∧
            r.waiterIn dir = none)) := by
  unfold submitPoll
  split
  · exact Or.inl ⟨_, rfl⟩
  · exact Or.inl ⟨_, rfl⟩
  · rename_i r registered
    right
    obtain ⟨waits, mask⟩ := armPoll_waiterIn r waker dir
    simp only
    split
    · exact ⟨_, (get_setPoll ..).trans (if_pos rfl), Or.inl ⟨rfl, waits, mask⟩⟩
    · rename_i fd pollMask asked
      have kept := pushPollAdd_registrations (d.setPoll token (armPoll r waker dir.interest).1) token fd
        pollMask submit
      split
      · rename_i d' pushed
        rw [pushed] at kept
        refine ⟨(armPoll r waker dir.interest).1, ?_, Or.inl ⟨rfl, waits, mask⟩⟩
        rw [kept, get_setPoll, if_pos rfl]
      · rename_i err d' pushed
        refine ⟨disarmPoll (armPoll r waker dir.interest).1, ?_, Or.inr ⟨⟨_, rfl⟩, disarmPoll_waiterIn mask⟩⟩
        rw [get_setPoll, if_pos rfl]

theorem submitPoll_accepted {d' : UringDriver} {submit : Enter}
    (accepted : d.submitPoll token waker dir.interest submit = (.ok (), d')) :
    d'.waiterOf token dir = some waker := by
  rcases submitPoll_waiterIn d token waker dir submit with ⟨err, failed⟩ | ⟨r, found, ⟨-, waits, -⟩ | ⟨⟨err, failed⟩, -⟩⟩
  · rw [accepted] at failed
    cases failed
  · rw [accepted] at found
    exact waiterOf_eq_some.mpr ⟨r, found, waits⟩
  · rw [accepted] at failed
    cases failed

theorem Masked.submitPoll (masked : d.Masked token dir) (waker : Waker) (submit : Enter) :
    (d.submitPoll token waker dir.interest submit).2.Masked token dir := by
  rcases submitPoll_waiterIn d token waker dir submit with ⟨err, failed⟩ | ⟨r, found, ⟨-, -, mask⟩ | ⟨-, vacant⟩⟩
  · rw [failed]
    exact masked
  · intro q registered _
    cases found.symm.trans registered
    exact mask
  · intro q registered waits
    cases found.symm.trans registered
    rw [vacant] at waits
    cases waits

/-- A completion is one of a poll on a registered handle, or it changes no registration. -/
theorem drainCqe_cases (d : UringDriver) (cqe : Cqe) :
    (∃ r, d.registrations.get (decodeToken cqe.userData) = some (.poll r) ∧
        d.drainCqe cqe = ⟨(drainPoll r).1, false, d.setPoll (decodeToken cqe.userData) (drainPoll r).2⟩) ∨
      ((d.drainCqe cqe).driver.registrations = d.registrations ∧
        (U64_MAX - 1 ≤ cqe.userData ∨ decodeKeyKind cqe.userData ≠ POLL_KEY_KIND ∨
          ∀ r, d.registrations.get (decodeToken cqe.userData) ≠ some (.poll r))) := by
  simp only [drainCqe]
  split
  · exact Or.inr ⟨rfl, Or.inl (by omega)⟩
  · split
    · exact Or.inr ⟨rfl, Or.inl (by omega)⟩
    · split
      · split
        · rename_i r registered
          exact Or.inl ⟨r, registered, rfl⟩
        · rename_i absent
          exact Or.inr ⟨rfl, Or.inr (Or.inr absent)⟩
      · rename_i operation
        exact Or.inr ⟨rfl, Or.inr (Or.inl operation)⟩

/-- The completion of a poll of the handle wakes whoever waits under its mask; every other
completion leaves the slot as it is. -/
theorem drainCqe_waiterOf (masked : d.Masked token dir) (stored : d.waiterOf token dir = some waker) (cqe : Cqe) :
    (d.drainCqe cqe).woken = some waker ∨
      ((token < TOKEN_LIMIT → cqe.userData ≠ encodePollKey token) ∧
        (d.drainCqe cqe).driver.waiterOf token dir = some waker) := by
  obtain ⟨r, registered, waits⟩ := waiterOf_eq_some.mp stored
  have mask := masked r registered (by simp [waits])
  rcases drainCqe_cases d cqe with ⟨q, found, drained⟩ | ⟨same, other⟩
  · rcases eq_or_ne (decodeToken cqe.userData) token with here | elsewhere
    · left
      rw [here, registered] at found
      cases found
      rw [drained]
      exact (drainPoll_masked mask).1.trans waits
    · right
      refine ⟨fun small same => elsewhere ?_, ?_⟩
      · rw [same, (decode_encodePollKey small).2.1]
      · rw [drained, waiterOf_eq_some]
        exact ⟨r, by rw [get_setPoll, if_neg elsewhere.symm, registered], waits⟩
  · right
    constructor
    · intro small key
      obtain ⟨below, tokenOf, kindOf⟩ := decode_encodePollKey small
      rw [key, kindOf, tokenOf] at other
      rcases other with reserved | operation | absent
      · omega
      · exact operation rfl
      · exact absent r registered
    · rw [waiterOf_eq_some, same]
      exact ⟨r, registered, waits⟩

theorem Masked.drainCqe (masked : d.Masked token dir) (cqe : Cqe) :
    (d.drainCqe cqe).driver.Masked token dir := by
  intro r found waits
  rcases drainCqe_cases d cqe with ⟨q, registered, drained⟩ | ⟨same, -⟩
  · rw [drained] at found
    simp only [get_setPoll] at found
    split at found
    · -- nobody is left waiting: there was nobody, or the mask was that of `dir`
      rename_i here
      rw [← here] at registered
      cases found
      cases waited : (q.waiterIn dir).isSome with
      | true =>
          rw [(drainPoll_masked (masked q registered waited)).2] at waits
          cases waits
      | false =>
          rw [drainPoll_vacant (by simpa using waited)] at waits
          cases waits
    · exact masked r found waits
  · exact masked r (same ▸ found) waits

end UringDriver

end Vibeio.Driver
