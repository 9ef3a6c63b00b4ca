/-
# Net.UdpPoller -- the write pollers of a QUIC socket

`create_io_poller` makes a poller that holds the socket and nothing else, so all pollers of
a socket poll one write flag, and the waker of whichever registered last is the one the
driver keeps.  `try_send` lowers the flag when sending fails.

The machine is one `VibeioUdpSocket` with its pollers and its driver; the labels are the
polls of any poller with any waker, the results of `try_send`, and the events of the driver.
The history of a poller begins with its latest poll: the waker it waits with if that poll
returned `Pending`, whether a write event has been delivered since, and whether its waker has
been woken since.

* `KeepsWriter`: what the results need of a driver, shown for mio and for io_uring.
* `pollers_all_woken`: every waiting poller is woken by a write event in the runs in which no
  registration takes the place of a poller that still waits to be woken.
-/
import Vibeio.Net.Readiness
import Vibeio.Driver.Waiters

namespace Vibeio.Net

set_option autoImplicit false

open Vibeio.Theory
open Vibeio.Driver (IoError Direction MioDriver UringDriver Event Enter Cqe)

/-! ## What a driver does with a writer -/

/-- A driver that keeps the last waker it accepted for writing until an event wakes it. -/
structure KeepsWriter {D E K : Type} (api : PollDriver D E K) where
  waiter : D → Option Waker
  Inv : D → Prop
  accepted : ∀ d waker env d', Inv d → api.submitPoll d waker .write env = (.ok (), d') →
    waiter d' = some waker
  submitted : ∀ d waker env, Inv d → Inv (api.submitPoll d waker .write env).2
  answered : ∀ d k waker, Inv d → waiter d = some waker →
    (api.event d k).1 = some waker ∨
      (api.delivers d k .write = false ∧ waiter (api.event d k).2 = some waker)
  handled : ∀ d k, Inv d → Inv (api.event d k).2

def mioWriter (token : Nat) (small : token < Driver.USIZE_MAX) : KeepsWriter (mioHandle token) where
  waiter d := d.waiterOf token
  Inv _ := True
  accepted d waker registered d' _ accepted := by
    change d.submitPoll token waker .writable registered = (.ok (), d') at accepted
    rcases d.submitPoll_waiterOf token waker .writable registered with ⟨-, stored⟩ | ⟨err, failed⟩
    · rw [accepted] at stored
      exact stored
    · cases accepted.symm.trans failed
  submitted _ _ _ _ := trivial
  answered d event waker _ stored := by
    rcases MioDriver.handleEvent_waiterOf stored event with woken | ⟨elsewhere, kept⟩
    · exact Or.inl woken
    · exact Or.inr ⟨by simp [mioHandle, elsewhere small], kept⟩
  handled _ _ _ := trivial

def uringWriter (token : Nat) (small : token < Driver.TOKEN_LIMIT) : KeepsWriter (uringHandle token) where
  waiter d := d.waiterOf token .write
  Inv d := d.Masked token .write
  accepted _ _ _ _ _ accepted := UringDriver.submitPoll_accepted accepted
  submitted _ waker submit masked := masked.submitPoll waker submit
  answered d cqe waker masked stored := by
    rcases UringDriver.drainCqe_waiterOf masked stored cqe with woken | ⟨elsewhere, kept⟩
    · exact Or.inl woken
    · refine Or.inr ⟨?_, kept⟩
      simp only [uringHandle]
      split
      · simp [elsewhere small]
      · rfl
  handled _ cqe masked := masked.drainCqe cqe

/-! ## A socket and its pollers -/

/-- A `VibeioUdpPoller`, with what has happened since its latest poll.  `waits` is the waker
of that poll if it returned `Pending`. -/
structure Poller where
  waits : Option Waker
  delivered : Bool
  woken : Bool
  deriving DecidableEq, Repr

structure QuicSocket (D : Type) where
  driver : D
  io : PollSocket
  pollers : Nat → Option Poller

inductive QuicStep (E K : Type) where
  | createIoPoller (p : Nat)
  | drop (p : Nat)
  | pollWritable (p : Nat) (waker : Waker) (env : E)
  /-- `state.send` would return `sent`. -/
  | trySend (sent : Except IoError Unit)
  | event (k : K)

namespace QuicSocket

variable {D E K : Type} (api : PollDriver D E K)

def setPoller (s : QuicSocket D) (p : Nat) (poller : Option Poller) : QuicSocket D :=
  { s with pollers := Function.update s.pollers p poller }

/-- What an event that wakes `woken` means to a poller. -/
def Poller.hear (poller : Poller) (write : Bool) (woken : Option Waker) : Poller :=
  { poller with
    delivered := poller.delivered || write
    woken := poller.woken || (woken.isSome && woken == poller.waits) }

def afterPoll (s : QuicSocket D) (p : Nat) (waker : Waker)
    (polled : Vibeio.Poll (Except IoError Unit) × PollSocket × D) : QuicSocket D :=
  let waits := match polled.1 with
    | .pending => some waker
    | .ready _ => none
  { s.setPoller p (some ⟨waits, false, false⟩) with io := polled.2.1, driver := polled.2.2 }

def step (s : QuicSocket D) : QuicStep E K → Option (QuicSocket D)
  | .createIoPoller p =>
      match s.pollers p with
      | none => some (s.setPoller p (some ⟨none, false, false⟩))
      | some _ => none
  | .drop p => some (s.setPoller p none)
  | .pollWritable p waker env =>
      (s.pollers p).map fun _ => s.afterPoll p waker (PollUdpSocket.pollWritable api s.driver s.io waker env)
  | .trySend sent => some { s with io := (PollUdpSocket.tryIoWritable s.io sent).socket }
  | .event k =>
      let write := api.delivers s.driver k .write
      let event := api.event s.driver k
      some { s with
        driver := event.2
        pollers := fun p => (s.pollers p).map (Poller.hear · write event.1) }

/-- **Every write poller is woken**: a poller that waits and for which a write event has been
delivered since its latest poll has been woken since. -/
def AllWoken (s : QuicSocket D) : Prop :=
  ∀ p poller waker, s.pollers p = some poller → poller.waits = some waker → poller.delivered = true →
    poller.woken = true

/-- A poller that is to register (the flag is down) leaves the driver the waker of every other
poller that still waits to be woken. -/
def Spares (keeps : KeepsWriter api) (s : QuicSocket D) : QuicStep E K → Prop
  | .pollWritable p waker env => s.io.writeReady = false → ∀ q poller other, q ≠ p →
      s.pollers q = some poller → poller.waits = some other →
      poller.woken = true ∨ keeps.waiter (api.submitPoll s.driver waker .write env).2 = some other
  | _ => True

end QuicSocket

def quicMachine {D E K : Type} (api : PollDriver D E K) : Machine (QuicSocket D) (QuicStep E K) where
  start s := ∀ p, s.pollers p = none
  step := QuicSocket.step api

/-! ## Runs -/

namespace QuicSocket

variable {D E K : Type} {api : PollDriver D E K}

/-- A poller that waits has been woken, or the driver has its waker and no write event has
come. -/
structure Good (keeps : KeepsWriter api) (s : QuicSocket D) : Prop where
  driver : keeps.Inv s.driver
  kept : ∀ p poller waker, s.pollers p = some poller → poller.waits = some waker →
    poller.woken = true ∨ (keeps.waiter s.driver = some waker ∧ poller.delivered = false)

variable {keeps : KeepsWriter api}

theorem Good.allWoken {s : QuicSocket D} (good : s.Good keeps) : s.AllWoken := by
  intro p poller waker present waits delivered
  rcases good.kept p poller waker present waits with woken | ⟨-, quiet⟩
  · exact woken
  · rw [delivered] at quiet
    cases quiet

theorem setPoller_pollers (s : QuicSocket D) (p q : Nat) (poller : Option Poller) :
    (s.setPoller p poller).pollers q = if q = p then poller else s.pollers q := by
  simp only [setPoller, Function.update_apply]

/-- A poller that does not wait may come or go. -/
theorem Good.setPoller {s : QuicSocket D} (good : s.Good keeps) (p : Nat) {poller : Option Poller}
    (idle : ∀ now, poller = some now → now.waits = none) : (s.setPoller p poller).Good keeps := by
  refine ⟨good.driver, fun q other waker present waits => ?_⟩
  rw [setPoller_pollers] at present
  split at present
  · rw [idle other present] at waits
    cases waits
  · exact good.kept q other waker present waits

/-- A registration that spares the others. -/
theorem Good.spared {s : QuicSocket D} {p q : Nat} {waker other : Waker} {env : E} {poller : Poller}
    (good : s.Good keeps) (spares : s.Spares api keeps (.pollWritable p waker env))
    (down : s.io.writeReady = false) (another : q ≠ p) (present : s.pollers q = some poller)
    (waits : poller.waits = some other) :
    poller.woken = true ∨
      (keeps.waiter (api.submitPoll s.driver waker .write env).2 = some other ∧ poller.delivered = false) := by
  rcases good.kept q poller other present waits with woken | ⟨-, quiet⟩
  · exact Or.inl woken
  · rcases spares down q poller other another present waits with woken | stored
    · exact Or.inl woken
    · exact Or.inr ⟨stored, quiet⟩

theorem Good.pollWritable {s s' : QuicSocket D} {p : Nat} {waker : Waker} {env : E} (good : s.Good keeps)
    (spares : s.Spares api keeps (.pollWritable p waker env))
    (stepped : s.step api (.pollWritable p waker env) = some s') : s'.Good keeps := by
  simp only [step, Option.map_eq_some_iff] at stepped
  obtain ⟨before, -, rfl⟩ := stepped
  rcases @Flagged.pollReady_cases D E K api s.driver s.io .write waker env with ⟨-, same⟩ | ⟨down, err, same⟩ | ⟨down, accepted, same⟩
  · -- the flag is up
    rw [PollUdpSocket.pollWritable, same]
    exact good.setPoller p (by rintro now ⟨⟩; rfl)
  · -- refused
    rw [PollUdpSocket.pollWritable, same]
    refine ⟨keeps.submitted _ _ _ good.driver, fun q other w present waits => ?_⟩
    simp only [afterPoll, setPoller_pollers] at present
    split at present
    · cases present
      cases waits
    · rename_i another
      exact good.spared spares down another present waits
  · -- registered
    rw [PollUdpSocket.pollWritable, same]
    refine ⟨keeps.submitted _ _ _ good.driver, fun q other w present waits => ?_⟩
    simp only [afterPoll, setPoller_pollers] at present
    split at present
    · cases present
      cases waits
      exact Or.inr ⟨keeps.accepted _ _ _ _ good.driver accepted, rfl⟩
    · rename_i another
      exact good.spared spares down another present waits

theorem Good.trySend {s s' : QuicSocket D} {sent : Except IoError Unit} (good : s.Good keeps)
    (stepped : s.step api (.trySend sent) = some s') : s'.Good keeps := by
  cases stepped
  exact ⟨good.driver, good.kept⟩

/-- An event wakes whoever the driver keeps, or it is none of writing on this socket. -/
theorem Good.event {s s' : QuicSocket D} {k : K} (good : s.Good keeps)
    (stepped : s.step api (.event k) = some s') : s'.Good keeps := by
  cases stepped
  refine ⟨keeps.handled _ _ good.driver, fun p poller waker present waits => ?_⟩
  obtain ⟨before, stood, rfl⟩ := Option.map_eq_some_iff.mp present
  change before.waits = some waker at waits
  rcases good.kept p before waker stood waits with woken | ⟨stored, quiet⟩
  · left
    simp only [Poller.hear, woken, Bool.true_or]
  · rcases keeps.answered s.driver k waker good.driver stored with wakes | ⟨elsewhere, still⟩
    · left
      simp [Poller.hear, wakes, waits]
    · right
      exact ⟨still, by simp only [Poller.hear, quiet, elsewhere, Bool.or_self]⟩

theorem Good.step {s s' : QuicSocket D} {label : QuicStep E K} (good : s.Good keeps)
    (spares : s.Spares api keeps label) (stepped : s.step api label = some s') : s'.Good keeps := by
  cases label with
  | createIoPoller p =>
      simp only [QuicSocket.step] at stepped
      split at stepped
      · cases stepped
        exact good.setPoller p (by rintro now ⟨⟩; rfl)
      · cases stepped
  | drop p =>
      cases stepped
      exact good.setPoller p (by rintro now ⟨⟩)
  | pollWritable p waker env => exact good.pollWritable spares stepped
  | trySend sent => exact good.trySend stepped
  | event k => exact good.event stepped

end QuicSocket

/-- **When the write pollers of a socket are all woken.**  On any driver that keeps the last
waker it accepted, and for any pollers, wakers, results of `try_send` and events: in a run in
which no registration takes the place of a poller that still waits to be woken, every write
event has woken every poller that was waiting when it was delivered. -/
theorem pollers_all_woken {D E K : Type} {api : PollDriver D E K} (keeps : KeepsWriter api)
    {s : QuicSocket D} {labels : List (QuicStep E K)} (sound : keeps.Inv s.driver)
    (starts : (quicMachine api).start s) (spares : (quicMachine api).AllSteps (QuicSocket.Spares api keeps) s labels) :
    (quicMachine api).Throughout QuicSocket.AllWoken s labels := by
  have good : s.Good keeps := by
    refine ⟨sound, fun p poller waker present _ => ?_⟩
    rw [starts p] at present
    cases present
  exact Machine.throughout_of_allSteps
    (fun _ _ _ good spares stepped => QuicSocket.Good.step good spares stepped)
    (fun _ good => good.allWoken) good spares

/-- One handle of an io_uring driver, the flags down, no poller. -/
def QuicSocket.oneSocket : QuicSocket UringDriver :=
  ⟨UringDriver.oneHandle, ⟨false, false⟩, fun _ => none⟩

/-- One poller registers and hears the event. -/
theorem one_poller_woken :
    QuicSocket.oneSocket.driver.Masked 0 .write ∧ (quicMachine (uringHandle 0)).start .oneSocket ∧
      (quicMachine (uringHandle 0)).Throughout QuicSocket.AllWoken .oneSocket
        [.createIoPoller 0, .pollWritable 0 ⟨7⟩ UringDriver.idleEnter,
          .event ⟨UringDriver.pollAddEntry 0 3 Driver.POLLOUT, 1⟩] := by
  have masked : QuicSocket.oneSocket.driver.Masked 0 .write := by
    intro r found waits
    cases found
    cases waits
  refine ⟨masked, fun _ => rfl, ?_⟩
  refine pollers_all_woken (uringWriter 0 (by decide)) masked (fun _ => rfl) ⟨trivial, ?_⟩
  rintro s ⟨⟩
  refine ⟨?_, fun _ _ => ⟨trivial, fun _ _ => trivial⟩⟩
  intro _ q poller other another present _
  change Function.update (fun _ => none) 0 _ q = some poller at present
  rw [Function.update_of_ne another] at present
  cases present

/-- A poller registers, sending fails, and another registers: the event reaches the second
only. -/
theorem second_poller_takes_the_waker :
    ∃ s poller, (quicMachine (uringHandle 0)).start .oneSocket ∧
      (quicMachine (uringHandle 0)).exec .oneSocket
        [.createIoPoller 0, .createIoPoller 1, .pollWritable 0 ⟨7⟩ UringDriver.idleEnter,
          .trySend (.error (.os Driver.EAGAIN)), .pollWritable 1 ⟨8⟩ UringDriver.idleEnter,
          .event ⟨UringDriver.pollAddEntry 0 3 Driver.POLLOUT, 1⟩] = some s ∧
      s.pollers 0 = some poller ∧ poller.waits = some ⟨7⟩ ∧ poller.woken = false ∧ ¬ s.AllWoken := by
  refine ⟨_, ⟨some ⟨7⟩, true, false⟩, fun _ => rfl, rfl, rfl, rfl, rfl, fun allWoken => ?_⟩
  have woken := allWoken 0 ⟨some ⟨7⟩, true, false⟩ ⟨7⟩ rfl rfl rfl
  cases woken

end Vibeio.Net
