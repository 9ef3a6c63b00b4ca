/-
# Net.Readiness -- the readiness flags of poll sockets

`PollUdpSocket` and `PollTcpStream` keep a flag for each direction.  A poll that finds the
flag down hands its waker to the driver through a `ReadinessOp` and raises the flag although
the operation returned `Pending`; it is the driver's event, through that waker, that is meant
to bring the caller back.  A `try_io` runs its closure if the flag is up and lowers it when
the closure fails, whatever the error.

The driver is what a handle sees of one (`PollDriver`): it takes wakers and it handles
events.  The history notes, for each direction, whether an event has been delivered since
the flag became false (`since`), whether a poll has registered and no such event has come
(`asked`), and whether a call has ever taken the direction for ready without one
(`unfounded`).

`readiness_flags_iff`: a direction is never taken for ready without an event exactly in the
runs in which nobody calls again between a registration and the event that answers it.
-/
import Vibeio.Driver.PollWaiters
import Vibeio.Driver.UringPoll
import Mathlib.Logic.Function.Basic

namespace Vibeio.Net

set_option autoImplicit false

open Vibeio.Theory
open Vibeio.Driver (IoError Direction MioDriver UringDriver Event Enter Cqe)

/-! ## The driver as one handle sees it -/

/-- `submitPoll` for a direction of the handle, with the answer of the system; `event`
handles an event and says who is woken; `delivers` says whether that event is readiness of
the handle in a direction. -/
structure PollDriver (D E K : Type) where
  submitPoll : D → Waker → Direction → E → Except IoError Unit × D
  event : D → K → Option Waker × D
  delivers : D → K → Direction → Bool

/-- The handle `token` of the mio driver. -/
def mioHandle (token : Nat) : PollDriver MioDriver (Except IoError Unit) Event where
  submitPoll d waker dir registered := d.submitPoll token waker dir.interest registered
  event d event := d.handleEvent event
  delivers _ event dir := event.token == token && decide (dir.WatchedBy event.readiness)

/-- The bit of a poll mask that stands for a direction. -/
def pollBit : Direction → Nat
  | .read => Driver.POLLIN
  | .write => Driver.POLLOUT

/-- The handle `token` of the io_uring driver.  An event is the completion of a `PollAdd`. -/
def uringHandle (token : Nat) : PollDriver UringDriver Enter Cqe where
  submitPoll d waker dir submit := d.submitPoll token waker dir.interest submit
  event d cqe := ((d.drainCqe cqe).woken, (d.drainCqe cqe).driver)
  delivers _ cqe dir := match cqe.sqe.request with
    | .pollAdd _ mask => cqe.userData == Driver.encodePollKey token && Driver.maskHas mask (pollBit dir)
    | _ => false

/-! ## The sockets -/

/-- The two flags of a `PollUdpSocket` or a `PollTcpStream`. -/
structure PollSocket where
  readReady : Bool
  writeReady : Bool
  deriving DecidableEq, Repr

namespace PollSocket

def ready (s : PollSocket) : Direction → Bool
  | .read => s.readReady
  | .write => s.writeReady

def setReady (s : PollSocket) (dir : Direction) (ready : Bool) : PollSocket :=
  match dir with
  | .read => { s with readReady := ready }
  | .write => { s with writeReady := ready }

@[simp] theorem ready_setReady (s : PollSocket) (dir other : Direction) (ready : Bool) :
    (s.setReady dir ready).ready other = if other = dir then ready else s.ready other := by
  cases dir <;> cases other <;> rfl

end PollSocket

section Methods

variable {D E K : Type} (api : PollDriver D E K)

/-- `ReadinessOp::poll_poll`. -/
def ReadinessOp.pollPoll (d : D) (dir : Direction) (waker : Waker) (env : E) :
    Vibeio.Poll (Except IoError Unit) × D :=
  match api.submitPoll d waker dir env with
  | (.error err, d) => (.ready (.error err), d)
  | (.ok (), d) => (.pending, d)

/-- What `poll_readable` and `poll_writable` of both types do. -/
def PollSocket.pollReady (d : D) (s : PollSocket) (dir : Direction) (waker : Waker) (env : E) :
    Vibeio.Poll (Except IoError Unit) × PollSocket × D :=
  if s.ready dir then (.ready (.ok ()), s, d)
  else
    match ReadinessOp.pollPoll api d dir waker env with
    | (.ready (.error err), d) => (.ready (.error err), s, d)
    | (poll, d) => (poll, s.setReady dir true, d)

/-- What a `try_io` returns and leaves, and whether its closure ran. -/
structure Tried where
  ran : Bool
  result : Except IoError Unit
  socket : PollSocket

/-- What `try_io_readable` and `try_io_writable` of both types do; `io` is the result of
the closure if it runs. -/
def PollSocket.tryIo (s : PollSocket) (dir : Direction) (notReady : String) (io : Except IoError Unit) : Tried :=
  if s.ready dir then
    match io with
    | .error err => ⟨true, .error err, s.setReady dir false⟩
    | .ok () => ⟨true, .ok (), s⟩
  else ⟨false, .error (.custom .wouldBlock notReady), s⟩

namespace PollUdpSocket

def pollReadable (d : D) (s : PollSocket) (waker : Waker) (env : E) := s.pollReady api d .read waker env
def pollWritable (d : D) (s : PollSocket) (waker : Waker) (env : E) := s.pollReady api d .write waker env
def tryIoReadable (s : PollSocket) (io : Except IoError Unit) : Tried := s.tryIo .read "read not ready" io
def tryIoWritable (s : PollSocket) (io : Except IoError Unit) : Tried := s.tryIo .write "write not ready" io

end PollUdpSocket

namespace PollTcpStream

def pollReadable (d : D) (s : PollSocket) (waker : Waker) (env : E) := s.pollReady api d .read waker env
def pollWritable (d : D) (s : PollSocket) (waker : Waker) (env : E) := s.pollReady api d .write waker env
def tryIoReadable (s : PollSocket) (io : Except IoError Unit) : Tried := s.tryIo .read "read not ready" io
def tryIoWritable (s : PollSocket) (io : Except IoError Unit) : Tried := s.tryIo .write "write not ready" io

end PollTcpStream

inductive SocketKind where
  | udp
  | tcp
  deriving DecidableEq, Repr

/-- The poll of a direction. -/
def SocketKind.poll (kind : SocketKind) (dir : Direction) :
    D → PollSocket → Waker → E → Vibeio.Poll (Except IoError Unit) × PollSocket × D :=
  match kind, dir with
  | .udp, .read => PollUdpSocket.pollReadable api
  | .udp, .write => PollUdpSocket.pollWritable api
  | .tcp, .read => PollTcpStream.pollReadable api
  | .tcp, .write => PollTcpStream.pollWritable api

/-- The `try_io` of a direction. -/
def SocketKind.tryIo (kind : SocketKind) (dir : Direction) : PollSocket → Except IoError Unit → Tried :=
  match kind, dir with
  | .udp, .read => PollUdpSocket.tryIoReadable
  | .udp, .write => PollUdpSocket.tryIoWritable
  | .tcp, .read => PollTcpStream.tryIoReadable
  | .tcp, .write => PollTcpStream.tryIoWritable

theorem SocketKind.poll_eq (kind : SocketKind) (dir : Direction) (d : D) (s : PollSocket) (waker : Waker)
    (env : E) : kind.poll api dir d s waker env = s.pollReady api d dir waker env := by
  cases kind <;> cases dir <;> rfl

/-- The types and directions differ in the text of the refusal only. -/
theorem SocketKind.tryIo_eq (kind : SocketKind) (dir : Direction) (s : PollSocket) (io : Except IoError Unit) :
    ∃ notReady, kind.tryIo dir s io = s.tryIo dir notReady io := by
  cases kind <;> cases dir <;> exact ⟨_, rfl⟩

end Methods

/-! ## A socket, its driver and the history -/

structure Flagged (D : Type) where
  driver : D
  socket : PollSocket
  since : Direction → Bool
  asked : Direction → Bool
  unfounded : Direction → Bool

inductive SocketStep (E K : Type) where
  | poll (dir : Direction) (waker : Waker) (env : E)
  | tryIo (dir : Direction) (io : Except IoError Unit)
  | event (k : K)

namespace Flagged

variable {D E K : Type} (api : PollDriver D E K) (kind : SocketKind)

/-- A call has taken `dir` for ready. -/
def taken (s : Flagged D) (dir : Direction) : Direction → Bool :=
  Function.update s.unfounded dir (s.unfounded dir || !s.since dir)

def afterPoll (s : Flagged D) (dir : Direction) (polled : Vibeio.Poll (Except IoError Unit) × PollSocket × D) :
    Flagged D :=
  let s := { s with socket := polled.2.1, driver := polled.2.2 }
  match polled.1 with
  | .ready (.ok ()) => { s with unfounded := s.taken dir }
  | .ready (.error _) => s
  | .pending => { s with asked := Function.update s.asked dir (!s.since dir) }

def afterTry (s : Flagged D) (dir : Direction) (tried : Tried) : Flagged D :=
  let unfounded := if tried.ran then s.taken dir else s.unfounded
  if s.socket.ready dir && !tried.socket.ready dir then
    -- the flag becomes false
    { s with
      socket := tried.socket, unfounded
      since := Function.update s.since dir false
      asked := Function.update s.asked dir false }
  else { s with socket := tried.socket, unfounded }

def step (s : Flagged D) : SocketStep E K → Option (Flagged D)
  | .poll dir waker env => some (s.afterPoll dir (kind.poll api dir s.driver s.socket waker env))
  | .tryIo dir io => some (s.afterTry dir (kind.tryIo dir s.socket io))
  | .event k =>
      some { s with
        driver := (api.event s.driver k).2
        since := fun dir => s.since dir || api.delivers s.driver k dir
        asked := fun dir => s.asked dir && !api.delivers s.driver k dir }

/-- The flag of `dir` is down, and nothing has happened yet. -/
structure Fresh (dir : Direction) (s : Flagged D) : Prop where
  down : s.socket.ready dir = false
  since : s.since dir = false
  asked : s.asked dir = false
  unfounded : s.unfounded dir = false

/-- **The flag means readiness**: no poll of `dir` has returned `Ready(Ok)`, and no `try_io`
run its closure, without an event for it since the flag became false. -/
def Founded (dir : Direction) (s : Flagged D) : Prop := s.unfounded dir = false

/-- The label is a call in direction `dir`. -/
def Calls (dir : Direction) : SocketStep E K → Prop
  | .poll other _ _ => other = dir
  | .tryIo other _ => other = dir
  | .event _ => False

/-- Nobody calls between a registration and the event that answers it. -/
def Patient (dir : Direction) (s : Flagged D) (label : SocketStep E K) : Prop :=
  Calls dir label → s.asked dir = false

end Flagged

def socketMachine {D E K : Type} (api : PollDriver D E K) (kind : SocketKind) (dir : Direction) :
    Machine (Flagged D) (SocketStep E K) where
  start := Flagged.Fresh dir
  step := Flagged.step api kind

/-! ## One call -/

namespace Flagged

variable {D E K : Type} {api : PollDriver D E K} {kind : SocketKind}

/-- A registration without an event is a flag that is up without one. -/
structure Good (dir : Direction) (s : Flagged D) : Prop where
  founded : s.Founded dir
  asked : s.asked dir = (s.socket.ready dir && !s.since dir)

theorem Fresh.good {dir : Direction} {s : Flagged D} (fresh : s.Fresh dir) : s.Good dir :=
  ⟨fresh.unfounded, by rw [fresh.asked, fresh.down]; rfl⟩

/-- What a poll does: it finds the flag up, or the driver refuses it, or it registers and
raises the flag. -/
theorem pollReady_cases (d : D) (s : PollSocket) (dir : Direction) (waker : Waker) (env : E) :
    (s.ready dir = true ∧ s.pollReady api d dir waker env = (.ready (.ok ()), s, d)) ∨
      (s.ready dir = false ∧ ∃ err, s.pollReady api d dir waker env =
        (.ready (.error err), s, (api.submitPoll d waker dir env).2)) ∨
      (s.ready dir = false ∧
        api.submitPoll d waker dir env = (.ok (), (api.submitPoll d waker dir env).2) ∧
        s.pollReady api d dir waker env = (.pending, s.setReady dir true, (api.submitPoll d waker dir env).2)) := by
  cases up : s.ready dir with
  | true => exact Or.inl ⟨rfl, by simp [PollSocket.pollReady, up]⟩
  | false =>
      right
      simp only [PollSocket.pollReady, ReadinessOp.pollPoll, up, Bool.false_eq_true, if_false, true_and]
      rcases api.submitPoll d waker dir env with ⟨_ | ⟨⟨⟩⟩, d'⟩
      · exact Or.inl ⟨_, rfl⟩
      · exact Or.inr ⟨rfl, rfl⟩

/-- The two states are the same for a direction. -/
structure SameFor (dir : Direction) (s t : Flagged D) : Prop where
  ready : t.socket.ready dir = s.socket.ready dir
  since : t.since dir = s.since dir
  asked : t.asked dir = s.asked dir
  unfounded : t.unfounded dir = s.unfounded dir

theorem Good.same {dir : Direction} {s t : Flagged D} (good : s.Good dir) (same : s.SameFor dir t) :
    t.Good dir := by
  refine ⟨same.unfounded.trans good.founded, ?_⟩
  rw [same.asked, same.ready, same.since]
  exact good.asked

theorem afterPoll_other {dir other : Direction} (different : dir ≠ other) (s : Flagged D) (waker : Waker) (env : E) :
    s.SameFor dir (s.afterPoll other (s.socket.pollReady api s.driver other waker env)) := by
  rcases @pollReady_cases D E K api s.driver s.socket other waker env with
    ⟨-, same⟩ | ⟨-, err, same⟩ | ⟨-, -, same⟩
  · rw [same]
    exact ⟨rfl, rfl, rfl, Function.update_of_ne different ..⟩
  · rw [same]
    exact ⟨rfl, rfl, rfl, rfl⟩
  · rw [same]
    refine ⟨?_, rfl, Function.update_of_ne different .., rfl⟩
    simp only [afterPoll, PollSocket.ready_setReady, if_neg different]

theorem afterTry_other {dir other : Direction} (different : dir ≠ other) (s : Flagged D) (notReady : String)
    (io : Except IoError Unit) : s.SameFor dir (s.afterTry other (s.socket.tryIo other notReady io)) := by
  cases up : s.socket.ready other with
  | false =>
      constructor <;> simp [PollSocket.tryIo, afterTry, up]
  | true =>
      cases io <;> constructor <;> simp [PollSocket.tryIo, afterTry, taken, up, different]

/-- A poll of the direction itself.  It finds the flag up, it fails, or it registers. -/
theorem Good.poll_here {dir : Direction} {s : Flagged D} (good : s.Good dir) (waker : Waker) (env : E) :
    let s' := s.afterPoll dir (s.socket.pollReady api s.driver dir waker env)
    (s.asked dir = false → s'.Good dir) ∧ (s.asked dir = true → ¬ s'.Founded dir) := by
  have asked := good.asked
  have founded : s.unfounded dir = false := good.founded
  rcases @pollReady_cases D E K api s.driver s.socket dir waker env with
    ⟨up, same⟩ | ⟨down, err, same⟩ | ⟨down, -, same⟩
  · rw [same]
    simp only [up, Bool.true_and] at asked
    constructor
    · intro patient
      rw [patient] at asked
      refine ⟨?_, by simp only [afterPoll, up, patient, ← asked, Bool.true_and]⟩
      simp only [Founded, afterPoll, taken, Function.update_self, founded, ← asked, Bool.or_self]
    · intro impatient
      rw [impatient] at asked
      simp only [Founded, afterPoll, taken, Function.update_self, founded, ← asked, Bool.or_true]
      decide
  · rw [same]
    refine ⟨fun _ => ⟨good.founded, good.asked⟩, fun impatient => ?_⟩
    rw [asked, down] at impatient
    cases impatient
  · rw [same]
    constructor
    · intro _
      refine ⟨good.founded, ?_⟩
      simp [afterPoll]
    · intro impatient
      rw [asked, down] at impatient
      cases impatient

/-- A `try_io` of the direction itself.  It is refused, or its closure runs and the flag
stays up or becomes false. -/
theorem Good.tryIo_here {dir : Direction} {s : Flagged D} (good : s.Good dir) (notReady : String)
    (io : Except IoError Unit) :
    let s' := s.afterTry dir (s.socket.tryIo dir notReady io)
    (s.asked dir = false → s'.Good dir) ∧ (s.asked dir = true → ¬ s'.Founded dir) := by
  have asked := good.asked
  have founded : s.unfounded dir = false := good.founded
  cases up : s.socket.ready dir with
  | false =>
      simp only [PollSocket.tryIo, up, Bool.false_eq_true, if_false, afterTry, Bool.false_and]
      refine ⟨fun _ => ⟨good.founded, good.asked⟩, fun impatient => ?_⟩
      rw [asked, up] at impatient
      cases impatient
  | true =>
      have ran : (s.socket.tryIo dir notReady io).ran = true := by
        cases io <;> simp [PollSocket.tryIo, up]
      have unfounded : (s.afterTry dir (s.socket.tryIo dir notReady io)).unfounded dir = !s.since dir := by
        simp only [afterTry, ran, if_true]
        split <;> simp only [taken, Function.update_self, founded, Bool.false_or]
      simp only [up, Bool.true_and] at asked
      constructor
      · intro patient
        rw [patient] at asked
        refine ⟨unfounded.trans asked.symm, ?_⟩
        cases io with
        | ok _ => simp [PollSocket.tryIo, afterTry, up, patient, ← asked]
        | error err => simp [PollSocket.tryIo, afterTry, up]
      · intro impatient taken_
        rw [impatient] at asked
        exact Bool.false_ne_true (taken_.symm.trans (unfounded.trans asked.symm))

theorem Good.poll {dir other : Direction} {s : Flagged D} (good : s.Good dir) (waker : Waker) (env : E) :
    let s' := s.afterPoll other (kind.poll api other s.driver s.socket waker env)
    ((other = dir → s.asked dir = false) → s'.Good dir) ∧
      (¬ (other = dir → s.asked dir = false) → ¬ s'.Founded dir) := by
  rw [SocketKind.poll_eq]
  rcases eq_or_ne dir other with rfl | different
  · obtain ⟨patient, impatient⟩ := @Good.poll_here D E K api dir s good waker env
    exact ⟨fun heard => patient (heard rfl), fun unheard => impatient (by simpa using unheard)⟩
  · refine ⟨fun _ => good.same (afterPoll_other different s waker env), fun impatient => ?_⟩
    exact absurd (fun same => absurd same.symm different) impatient

theorem Good.tryIo {dir other : Direction} {s : Flagged D} (good : s.Good dir) (io : Except IoError Unit) :
    let s' := s.afterTry other (kind.tryIo other s.socket io)
    ((other = dir → s.asked dir = false) → s'.Good dir) ∧
      (¬ (other = dir → s.asked dir = false) → ¬ s'.Founded dir) := by
  obtain ⟨notReady, same⟩ := kind.tryIo_eq other s.socket io
  rw [same]
  rcases eq_or_ne dir other with rfl | different
  · obtain ⟨patient, impatient⟩ := good.tryIo_here notReady io
    exact ⟨fun heard => patient (heard rfl), fun unheard => impatient (by simpa using unheard)⟩
  · refine ⟨fun _ => good.same (afterTry_other different s notReady io), fun impatient => ?_⟩
    exact absurd (fun same => absurd same.symm different) impatient

theorem Good.event {dir : Direction} {s : Flagged D} (good : s.Good dir) (k : K) {s' : Flagged D}
    (stepped : s.step api kind (.event k) = some s') : s'.Good dir := by
  cases stepped
  refine ⟨good.founded, ?_⟩
  simp only [good.asked, Bool.not_or, Bool.and_assoc]

theorem Good.step {dir : Direction} {s s' : Flagged D} {label : SocketStep E K} (good : s.Good dir)
    (patient : s.Patient dir label) (stepped : Flagged.step api kind s label = some s') : s'.Good dir := by
  cases label with
  | poll other waker env => cases stepped; exact (good.poll waker env).1 patient
  | tryIo other io => cases stepped; exact (good.tryIo io).1 patient
  | event k => exact good.event k stepped

theorem Good.broken {dir : Direction} {s s' : Flagged D} {label : SocketStep E K} (good : s.Good dir)
    (impatient : ¬ s.Patient dir label) (stepped : Flagged.step api kind s label = some s') :
    ¬ s'.Founded dir := by
  cases label with
  | poll other waker env => cases stepped; exact (good.poll waker env).2 impatient
  | tryIo other io => cases stepped; exact (good.tryIo io).2 impatient
  | event k => exact absurd (fun calls => calls.elim) impatient

end Flagged

/-- **When readiness flags mean readiness.**  For both types of socket, any driver, either
direction and every run that begins with its flag down: a poll returns `Ready(Ok)` and a
`try_io` runs its closure only after an event for the direction since the flag became false,
if and only if no call in that direction comes between a poll that registers and the event
that answers it. -/
theorem readiness_flags_iff {D E K : Type} (api : PollDriver D E K) (kind : SocketKind) (dir : Direction)
    {s t : Flagged D} {labels : List (SocketStep E K)} (fresh : s.Fresh dir)
    (ran : (socketMachine api kind dir).exec s labels = some t) :
    (socketMachine api kind dir).Throughout (Flagged.Founded dir) s labels ↔
      (socketMachine api kind dir).AllSteps (Flagged.Patient dir) s labels :=
  Machine.throughout_iff_allSteps
    (fun _ _ _ good patient stepped => Flagged.Good.step good patient stepped)
    (fun _ good => good.founded)
    (fun _ _ _ good impatient stepped => Flagged.Good.broken good impatient stepped)
    fresh.good ran

/-- One handle of an io_uring driver and both flags down. -/
def Flagged.oneSocket : Flagged UringDriver :=
  ⟨UringDriver.oneHandle, ⟨false, false⟩, fun _ => false, fun _ => false, fun _ => false⟩

/-- A poll, the completion of its `PollAdd`, and a closure that runs. -/
theorem readiness_flags_after_event :
    ∃ t, (socketMachine (uringHandle 0) .udp .read).exec .oneSocket
        [.poll .read ⟨7⟩ UringDriver.idleEnter, .event ⟨UringDriver.pollAddEntry 0 3 Driver.POLLIN, 1⟩,
          .tryIo .read (.ok ())] = some t ∧ t.unfounded .read = false ∧
      ((socketMachine (uringHandle 0) .udp .read).Throughout (Flagged.Founded .read) .oneSocket
          [.poll .read ⟨7⟩ UringDriver.idleEnter, .event ⟨UringDriver.pollAddEntry 0 3 Driver.POLLIN, 1⟩,
            .tryIo .read (.ok ())] ↔
        (socketMachine (uringHandle 0) .udp .read).AllSteps (Flagged.Patient .read) .oneSocket
          [.poll .read ⟨7⟩ UringDriver.idleEnter, .event ⟨UringDriver.pollAddEntry 0 3 Driver.POLLIN, 1⟩,
            .tryIo .read (.ok ())]) :=
  ⟨_, rfl, rfl, readiness_flags_iff (uringHandle 0) .udp .read ⟨rfl, rfl, rfl, rfl⟩ rfl⟩

/-- Polled twice in a row: the second poll says `Ready` though nothing has happened. -/
theorem second_poll_finds_ready :
    ∃ t, Flagged.oneSocket.Fresh .read ∧
      (socketMachine (uringHandle 0) .udp .read).exec .oneSocket
        [.poll .read ⟨7⟩ UringDriver.idleEnter, .poll .read ⟨7⟩ UringDriver.idleEnter] = some t ∧
      ¬ t.Founded .read :=
  ⟨_, ⟨rfl, rfl, rfl, rfl⟩, rfl, fun founded => absurd (show true = false from founded) (by decide)⟩

end Vibeio.Net
