/-
# Handle.Modes -- the mode of a socket and the flag of the file behind it

A socket in completion mode leaves the waiting to the ring; one in poll mode makes the call
itself, once its descriptor is ready.  So the file has to block in the first mode, or every
request comes back with `EAGAIN`, and must not block in the second, or a call stops the whole
runtime.  The mode belongs to the handle and `O_NONBLOCK` to the file, which descriptors
share once one of them has been duplicated.

* `newWithMode`, `rebindMode` and the conversions over them, for the four kinds of value that
  have both modes.  A pipe sets its flag with `fcntl` and does not look at the answer.
* `Agrees`: every value's file has the flag its mode needs, and a poll-only value is in poll
  mode.
* `modes_agree_iff`: they do in exactly those runs in which every value that is made or
  converted `Fits` the others that share its file.
* `tryClone_of_pollOnly`: `PollUdpSocket::try_clone` never fits over a ring.
-/
import Vibeio.Handle.Inner
import Vibeio.Theory.Machine
import Mathlib.Logic.Function.Basic

namespace Vibeio.Handle

open Vibeio.Theory
open Vibeio.Driver

set_option autoImplicit false

inductive EndpointKind where
  | tcp
  | unix
  | udp
  | pipe
  deriving DecidableEq, Repr

/-- A `TcpStream`, a `UnixStream`, a `UdpSocket` or a `Pipe`, or the poll-only value around
one.  `file` is the open file its descriptor stands for, `supportsCompletion` what the
driver of its handle can do. -/
structure Endpoint where
  kind : EndpointKind
  file : Nat
  supportsCompletion : Bool
  mode : RegistrationMode
  supported : mode = .completion → supportsCompletion = true
  pollOnly : Bool

/-- What the driver and the system answer during one call. -/
structure ModeEnv where
  deregistered : Except IoError Unit
  registered : Except IoError Unit
  nonblocking : Except IoError Unit

namespace Endpoint

def usesCompletion (e : Endpoint) : Bool := e.supportsCompletion && e.mode == .completion

/-! ## The two ways to poll an operation -/

def pollOp {R : Type} (e : Endpoint) (pollCompletion pollPoll : R) : R :=
  if e.usesCompletion then pollCompletion else pollPoll

/-- The kind of the error is `Unsupported`. -/
def pollOpPoll {R : Type} (e : Endpoint) (pollPoll : R) : Except String R :=
  if e.usesCompletion then .error "poll-based I/O operation called on a completion-based I/O handle"
  else .ok pollPoll

/-! ## Conversions -/

/-- `driver` is the driver of the thread, by whether it completes. -/
def newWithMode (kind : EndpointKind) (file : Nat) (mode : RegistrationMode) (driver : Option Bool)
    (env : ModeEnv) : Except IoError Endpoint :=
  match driver with
  | none => .error (.custom .notConnected "can't register I/O handle outside runtime")
  | some supportsCompletion =>
      match env.registered with
      | .error err => .error err
      | .ok () => .ok
          { kind := kind, file := file, supportsCompletion := supportsCompletion
            mode := effectiveMode supportsCompletion mode
            supported := effectiveMode_supported supportsCompletion mode
            pollOnly := false }

def rebindMode (e : Endpoint) (requestedMode : RegistrationMode) (env : ModeEnv) : Except IoError Endpoint :=
  if e.mode = effectiveMode e.supportsCompletion requestedMode then .ok e
  else
    match env.deregistered, env.registered with
    | .error err, _ => .error err
    | .ok (), .error err => .error err
    | .ok (), .ok () => .ok
        { e with
          mode := effectiveMode e.supportsCompletion requestedMode
          supported := effectiveMode_supported e.supportsCompletion requestedMode }

/-- `set_nonblocking(!uses_completion)`: the value, unless the call failed and the code
looked, and the flags of the files. -/
def setNonblocking (e : Endpoint) (flags : Nat → Bool) (env : ModeEnv) :
    Except IoError Endpoint × (Nat → Bool) :=
  match env.nonblocking with
  | .ok () => (.ok e, Function.update flags e.file (!e.usesCompletion))
  | .error err => (if e.kind = .pipe then .ok e else .error err, flags)

/-- The value is lost on every failure: the conversions take it by value. -/
def settle (prepared : Except IoError Endpoint) (flags : Nat → Bool) (env : ModeEnv) :
    Except IoError Endpoint × (Nat → Bool) :=
  match prepared with
  | .error err => (.error err, flags)
  | .ok e => e.setNonblocking flags env

def wrap (pollOnly : Bool) (e : Endpoint) : Endpoint := { e with pollOnly := pollOnly }

def fromStdWithMode (kind : EndpointKind) (file : Nat) (mode : RegistrationMode) (driver : Option Bool)
    (flags : Nat → Bool) (env : ModeEnv) : Except IoError Endpoint × (Nat → Bool) :=
  settle (newWithMode kind file mode driver env) flags env

/-- `TcpStream::from_std` and its like, and for a poll-only value `PollTcpStream::from_std`
and its like. -/
def fromStd (kind : EndpointKind) (file : Nat) (pollOnly : Bool) (driver : Option Bool)
    (flags : Nat → Bool) (env : ModeEnv) : Except IoError Endpoint × (Nat → Bool) :=
  let (made, flags) := fromStdWithMode kind file (if pollOnly then .poll else .completion) driver flags env
  (made.map (wrap pollOnly), flags)

def intoPoll (e : Endpoint) (flags : Nat → Bool) (env : ModeEnv) : Except IoError Endpoint × (Nat → Bool) :=
  let (made, flags) := settle (e.rebindMode .poll env) flags env
  (made.map (wrap true), flags)

def intoAdaptive (e : Endpoint) : Endpoint := e.wrap false

def intoCompletion (e : Endpoint) (flags : Nat → Bool) (env : ModeEnv) :
    Except IoError Endpoint × (Nat → Bool) :=
  let (made, flags) := settle (e.rebindMode .completion env) flags env
  (made.map (wrap false), flags)

/-- `UdpSocket::try_clone`, and `PollUdpSocket::try_clone`, which puts the clone of its
socket back into a poll-only value.  The duplicate stands for the same file. -/
def tryClone (e : Endpoint) (duplicated : Except IoError Unit) (driver : Option Bool)
    (flags : Nat → Bool) (env : ModeEnv) : Except IoError Endpoint × (Nat → Bool) :=
  match duplicated with
  | .error err => (.error err, flags)
  | .ok () =>
      let (made, flags) := fromStd .udp e.file false driver flags env
      (made.map (wrap e.pollOnly), flags)

end Endpoint

/-! ## The values of a program -/

/-- `nonblocking` is the flag of each open file, `endpoints` are the values the program
holds, by descriptor. -/
structure Endpoints where
  nonblocking : Nat → Bool
  endpoints : Nat → Option Endpoint

inductive ModeLabel where
  | fromStd (fd : Nat) (kind : EndpointKind) (file : Nat) (pollOnly : Bool) (driver : Option Bool)
    (env : ModeEnv)
  | tryClone (fd cloned : Nat) (duplicated : Except IoError Unit) (driver : Option Bool) (env : ModeEnv)
  | intoPoll (fd : Nat) (env : ModeEnv)
  | intoCompletion (fd : Nat) (env : ModeEnv)
  | intoAdaptive (fd : Nat)
  /-- The value is dropped, or turned into its `std` value or its raw descriptor. -/
  | letGo (fd : Nat)

namespace Endpoints

/-- `fd` gets what a call made of it. -/
def put (w : Endpoints) (fd : Nat) (made : Except IoError Endpoint × (Nat → Bool)) : Endpoints :=
  ⟨made.2, Function.update w.endpoints fd made.1.toOption⟩

/-- The system gives out descriptors that are not in use; `into_poll` is a method of the
adaptive values, the other two conversions of the poll-only ones. -/
def step (w : Endpoints) : ModeLabel → Option Endpoints
  | .fromStd fd kind file pollOnly driver env =>
      if w.endpoints fd = none then some (w.put fd (Endpoint.fromStd kind file pollOnly driver w.nonblocking env))
      else none
  | .tryClone fd cloned duplicated driver env =>
      match w.endpoints fd with
      | some e =>
          if e.kind = .udp ∧ w.endpoints cloned = none then
            some (w.put cloned (e.tryClone duplicated driver w.nonblocking env))
          else none
      | none => none
  | .intoPoll fd env =>
      match w.endpoints fd with
      | some e => if e.pollOnly then none else some (w.put fd (e.intoPoll w.nonblocking env))
      | none => none
  | .intoCompletion fd env =>
      match w.endpoints fd with
      | some e => if e.pollOnly then some (w.put fd (e.intoCompletion w.nonblocking env)) else none
      | none => none
  | .intoAdaptive fd =>
      match w.endpoints fd with
      | some e => if e.pollOnly then some (w.put fd (.ok e.intoAdaptive, w.nonblocking)) else none
      | none => none
  | .letGo fd =>
      if w.endpoints fd = none then none
      else some { w with endpoints := Function.update w.endpoints fd none }

/-- No value yet; the flags of the files are as they are. -/
def Empty (w : Endpoints) : Prop := ∀ fd, w.endpoints fd = none

/-- The flag the mode needs, and the mode the type promises. -/
structure Agrees (w : Endpoints) : Prop where
  flag : ∀ fd e, w.endpoints fd = some e → w.nonblocking e.file = !e.usesCompletion
  pollOnly : ∀ fd e, w.endpoints fd = some e → e.pollOnly = true → e.usesCompletion = false

/-- `e` is about to set the flag of its file, at `fd`.  If that goes through, the other
values of the file have to be in the same mode; a pipe whose flag cannot be set has to find
it right. -/
def Fits (w : Endpoints) (fd : Nat) (e : Endpoint) (env : ModeEnv) : Prop :=
  match env.nonblocking with
  | .ok () =>
      (∀ other t, other ≠ fd → w.endpoints other = some t → t.file = e.file →
        t.usesCompletion = e.usesCompletion) ∧ (e.pollOnly = true → e.usesCompletion = false)
  | .error _ =>
      e.kind = .pipe → w.nonblocking e.file = !e.usesCompletion ∧ (e.pollOnly = true → e.usesCompletion = false)

/-- What a label is about to set the flag for, if it gets that far. -/
def prepared (w : Endpoints) : ModeLabel → Option (Nat × Endpoint × ModeEnv)
  | .fromStd fd kind file pollOnly driver env =>
      (Endpoint.newWithMode kind file (if pollOnly then .poll else .completion) driver env).toOption.map
        fun e => (fd, e.wrap pollOnly, env)
  | .tryClone fd cloned duplicated driver env =>
      (w.endpoints fd).bind fun e =>
        duplicated.toOption.bind fun _ =>
          (Endpoint.newWithMode .udp e.file .completion driver env).toOption.map
            fun made => (cloned, made.wrap e.pollOnly, env)
  | .intoPoll fd env =>
      (w.endpoints fd).bind fun e => (e.rebindMode .poll env).toOption.map fun e => (fd, e.wrap true, env)
  | .intoCompletion fd env =>
      (w.endpoints fd).bind fun e =>
        (e.rebindMode .completion env).toOption.map fun e => (fd, e.wrap false, env)
  | .intoAdaptive _ => none
  | .letGo _ => none

def FitsIn (w : Endpoints) (label : ModeLabel) : Prop :=
  ∀ fd e env, w.prepared label = some (fd, e, env) → w.Fits fd e env

end Endpoints

def endpointsMachine : Machine Endpoints ModeLabel where
  start := Endpoints.Empty
  step := Endpoints.step

/-! ## One call -/

namespace Endpoint

@[simp] theorem usesCompletion_wrap (e : Endpoint) (pollOnly : Bool) :
    (e.wrap pollOnly).usesCompletion = e.usesCompletion := rfl

theorem map_setNonblocking (e : Endpoint) (pollOnly : Bool) (flags : Nat → Bool) (env : ModeEnv) :
    ((e.setNonblocking flags env).1.map (wrap pollOnly), (e.setNonblocking flags env).2) =
      (e.wrap pollOnly).setNonblocking flags env := by
  unfold setNonblocking
  cases env.nonblocking with
  | ok _ => rfl
  | error err =>
      by_cases pipe : e.kind = .pipe <;> simp [pipe, wrap, Except.map]

theorem map_settle (prepared : Except IoError Endpoint) (pollOnly : Bool) (flags : Nat → Bool) (env : ModeEnv) :
    ((settle prepared flags env).1.map (wrap pollOnly), (settle prepared flags env).2) =
      settle (prepared.map (wrap pollOnly)) flags env := by
  cases prepared with
  | error err => rfl
  | ok e => exact e.map_setNonblocking pollOnly flags env

theorem map_wrap_wrap (made : Except IoError Endpoint) (inside outside : Bool) :
    (made.map (wrap inside)).map (wrap outside) = made.map (wrap outside) := by
  cases made <;> rfl

variable (kind : EndpointKind) (e : Endpoint) (flags : Nat → Bool) (driver : Option Bool) (env : ModeEnv)

theorem fromStd_eq (file : Nat) (pollOnly : Bool) :
    fromStd kind file pollOnly driver flags env =
      settle ((newWithMode kind file (if pollOnly then .poll else .completion) driver env).map (wrap pollOnly))
        flags env :=
  map_settle _ _ _ _

theorem intoPoll_eq : e.intoPoll flags env = settle ((e.rebindMode .poll env).map (wrap true)) flags env :=
  map_settle _ _ _ _

theorem intoCompletion_eq :
    e.intoCompletion flags env = settle ((e.rebindMode .completion env).map (wrap false)) flags env :=
  map_settle _ _ _ _

theorem tryClone_eq :
    e.tryClone (.ok ()) driver flags env =
      settle ((newWithMode .udp e.file .completion driver env).map (wrap e.pollOnly)) flags env := by
  rw [← map_wrap_wrap _ false, ← map_settle]
  simp only [tryClone, fromStd_eq, Bool.false_eq_true, if_false]

end Endpoint

namespace Endpoints

variable {w w' : Endpoints}

/-- The values of `w'` are values of `w`, or adaptive now. -/
def Left (w w' : Endpoints) : Prop :=
  w'.nonblocking = w.nonblocking ∧
    ∀ fd e', w'.endpoints fd = some e' → ∃ e, w.endpoints fd = some e ∧ e'.file = e.file ∧
      e'.usesCompletion = e.usesCompletion ∧ (e'.pollOnly = true → e.pollOnly = true)

theorem left_remove (w : Endpoints) (fd : Nat) :
    w.Left { w with endpoints := Function.update w.endpoints fd none } := by
  refine ⟨rfl, fun other e' here => ?_⟩
  by_cases same : other = fd
  · subst same
    simp at here
  · simp only [Function.update_of_ne same] at here
    exact ⟨e', here, rfl, rfl, id⟩

/-- Every call sets the flag of the value it prepares; one that prepares none leaves what
there is. -/
def Accounts (w w' : Endpoints) (label : ModeLabel) : Prop :=
  (∃ fd e env, w.prepared label = some (fd, e, env) ∧ w' = w.put fd (e.setNonblocking w.nonblocking env)) ∨
    (w.prepared label = none ∧ w.Left w')

theorem accounts_settle {label : ModeLabel} {fd : Nat} {made : Except IoError Endpoint} {env : ModeEnv}
    (prepares : w.prepared label = made.toOption.map fun e => (fd, e, env)) :
    w.Accounts (w.put fd (Endpoint.settle made w.nonblocking env)) label := by
  cases made with
  | error err => exact .inr ⟨prepares, w.left_remove fd⟩
  | ok e => exact .inl ⟨fd, e, env, prepares, rfl⟩

theorem step_cases {label : ModeLabel} (stepped : w.step label = some w') : w.Accounts w' label := by
  cases label with
  | fromStd fd kind file pollOnly driver env =>
      simp only [step, Option.ite_none_right_eq_some, Option.some.injEq] at stepped
      obtain ⟨-, rfl⟩ := stepped
      rw [Endpoint.fromStd_eq]
      apply accounts_settle
      simp only [prepared]
      cases Endpoint.newWithMode kind file (if pollOnly then .poll else .completion) driver env <;> rfl
  | tryClone fd cloned duplicated driver env =>
      cases here : w.endpoints fd with
      | none => simp [step, here] at stepped
      | some e =>
          simp only [step, here, Option.ite_none_right_eq_some, Option.some.injEq] at stepped
          obtain ⟨⟨-, vacant⟩, rfl⟩ := stepped
          cases duplicated with
          | error err =>
              refine .inr ⟨by simp [prepared, Except.toOption], ?_⟩
              exact w.left_remove cloned
          | ok _ =>
              rw [Endpoint.tryClone_eq]
              apply accounts_settle
              simp only [prepared, here, Option.bind_some, Except.toOption]
              cases Endpoint.newWithMode .udp e.file .completion driver env <;> rfl
  | intoPoll fd env =>
      cases here : w.endpoints fd with
      | none => simp [step, here] at stepped
      | some e =>
          simp only [step, here, Option.ite_none_left_eq_some, Option.some.injEq] at stepped
          obtain ⟨-, rfl⟩ := stepped
          rw [Endpoint.intoPoll_eq]
          apply accounts_settle
          simp only [prepared, here, Option.bind_some]
          cases e.rebindMode .poll env <;> rfl
  | intoCompletion fd env =>
      cases here : w.endpoints fd with
      | none => simp [step, here] at stepped
      | some e =>
          simp only [step, here, Option.ite_none_right_eq_some, Option.some.injEq] at stepped
          obtain ⟨-, rfl⟩ := stepped
          rw [Endpoint.intoCompletion_eq]
          apply accounts_settle
          simp only [prepared, here, Option.bind_some]
          cases e.rebindMode .completion env <;> rfl
  | intoAdaptive fd =>
      cases here : w.endpoints fd with
      | none => simp [step, here] at stepped
      | some e =>
          simp only [step, here, Option.ite_none_right_eq_some, Option.some.injEq] at stepped
          obtain ⟨-, rfl⟩ := stepped
          refine .inr ⟨rfl, rfl, fun other e' there => ?_⟩
          by_cases same : other = fd
          · subst same
            simp only [put, Except.toOption, Function.update_self, Option.some.injEq] at there
            subst there
            exact ⟨e, here, rfl, rfl, fun promised => Bool.noConfusion promised⟩
          · simp only [put, Function.update_of_ne same] at there
            exact ⟨e', there, rfl, rfl, id⟩
  | letGo fd =>
      simp only [step, Option.ite_none_left_eq_some, Option.some.injEq] at stepped
      obtain ⟨-, rfl⟩ := stepped
      exact .inr ⟨rfl, w.left_remove fd⟩

/-! ## Runs -/

theorem Agrees.left (agrees : w.Agrees) (left : w.Left w') : w'.Agrees := by
  obtain ⟨flags, values⟩ := left
  constructor
  · intro fd e' here
    obtain ⟨e, before, file, uses, -⟩ := values fd e' here
    rw [flags, file, uses]
    exact agrees.flag fd e before
  · intro fd e' here promised
    obtain ⟨e, before, -, uses, pollOnly⟩ := values fd e' here
    rw [uses]
    exact agrees.pollOnly fd e before (pollOnly promised)

/-- The flag is set for a value that fits. -/
theorem Agrees.put_ok (agrees : w.Agrees) {fd : Nat} {e : Endpoint}
    (same : ∀ other t, other ≠ fd → w.endpoints other = some t → t.file = e.file →
      t.usesCompletion = e.usesCompletion)
    (pollOnly : e.pollOnly = true → e.usesCompletion = false) :
    (w.put fd (.ok e, Function.update w.nonblocking e.file (!e.usesCompletion))).Agrees := by
  constructor
  · intro other t here
    by_cases own : other = fd
    · subst own
      simp only [put, Except.toOption, Function.update_self, Option.some.injEq] at here
      subst here
      simp [put]
    · simp only [put, Function.update_of_ne own] at here
      by_cases shared : t.file = e.file
      · simp [put, shared, same other t own here shared]
      · simp only [put, Function.update_of_ne shared]
        exact agrees.flag other t here
  · intro other t here promised
    by_cases own : other = fd
    · subst own
      simp only [put, Except.toOption, Function.update_self, Option.some.injEq] at here
      subst here
      exact pollOnly promised
    · simp only [put, Function.update_of_ne own] at here
      exact agrees.pollOnly other t here promised

/-- The flag cannot be set, and nobody looks. -/
theorem Agrees.put_unset (agrees : w.Agrees) {fd : Nat} {e : Endpoint}
    (right : w.nonblocking e.file = !e.usesCompletion)
    (pollOnly : e.pollOnly = true → e.usesCompletion = false) :
    (w.put fd (.ok e, w.nonblocking)).Agrees := by
  have set : (w.put fd (.ok e, Function.update w.nonblocking e.file (!e.usesCompletion))).Agrees := by
    refine agrees.put_ok (fun other t _ here shared => ?_) pollOnly
    have flag := agrees.flag other t here
    rw [shared, right] at flag
    simpa using flag.symm
  rwa [← right, Function.update_eq_self] at set

theorem Agrees.step {label : ModeLabel} (agrees : w.Agrees) (fits : w.FitsIn label)
    (stepped : w.step label = some w') : w'.Agrees := by
  obtain ⟨fd, e, env, prepares, rfl⟩ | ⟨-, left⟩ := step_cases stepped
  · have fits := fits fd e env prepares
    unfold Fits at fits
    unfold Endpoint.setNonblocking
    cases answer : env.nonblocking with
    | ok _ =>
        rw [answer] at fits
        exact agrees.put_ok fits.1 fits.2
    | error err =>
        rw [answer] at fits
        by_cases pipe : e.kind = .pipe
        · simp only [pipe, if_true]
          exact agrees.put_unset (fits pipe).1 (fits pipe).2
        · simp only [pipe, if_false]
          exact agrees.left (w.left_remove fd)
  · exact agrees.left left

theorem Agrees.broken {label : ModeLabel} (unfit : ¬ w.FitsIn label)
    (stepped : w.step label = some w') : ¬ w'.Agrees := by
  intro agrees
  apply unfit
  intro fd e env prepares
  obtain ⟨fd', e', env', prepares', rfl⟩ | ⟨none, -⟩ := step_cases stepped
  · cases prepares.symm.trans prepares'
    unfold Endpoint.setNonblocking at agrees
    unfold Fits
    cases answer : env.nonblocking with
    | ok _ =>
        rw [answer] at agrees
        have here : (w.put fd (.ok e, Function.update w.nonblocking e.file (!e.usesCompletion))).endpoints fd =
            some e := by simp [put, Except.toOption]
        refine ⟨fun other t own there shared => ?_, agrees.pollOnly fd e here⟩
        have flag := agrees.flag other t (by simpa [put, Function.update_of_ne own] using there)
        simpa [put, shared] using flag.symm
    | error err =>
        rw [answer] at agrees
        intro pipe
        simp only [pipe, if_true] at agrees
        have here : (w.put fd (.ok e, w.nonblocking)).endpoints fd = some e := by simp [put, Except.toOption]
        exact ⟨agrees.flag fd e here, agrees.pollOnly fd e here⟩
  · rw [none] at prepares
    cases prepares

theorem Empty.agrees (empty : w.Empty) : w.Agrees := by
  constructor
  · intro fd e here
    rw [empty fd] at here
    cases here
  · intro fd e here
    rw [empty fd] at here
    cases here

/-- Where modes agree with files no operation blocks the runtime, none goes to the ring for a
file that does not block, and no poll-only value is refused. -/
theorem Agrees.pollOp (agrees : w.Agrees) {fd : Nat} {e : Endpoint} (here : w.endpoints fd = some e) :
    e.pollOp false true = w.nonblocking e.file ∧
      (e.pollOnly = true → ∀ {R : Type} (pollPoll : R), e.pollOpPoll pollPoll = .ok pollPoll) := by
  rw [agrees.flag fd e here]
  refine ⟨?_, fun promised R pollPoll => ?_⟩
  · unfold Endpoint.pollOp
    cases e.usesCompletion <;> rfl
  · unfold Endpoint.pollOpPoll
    rw [agrees.pollOnly fd e here promised]
    rfl

/-- **A clone of a `PollUdpSocket` over a ring**: it completes, so it refuses every operation
of its type, and its file blocks under the socket it was cloned from. -/
theorem tryClone_of_pollOnly (agrees : w.Agrees) {fd cloned : Nat} {e : Endpoint}
    (here : w.endpoints fd = some e) (pollOnly : e.pollOnly = true) {env : ModeEnv}
    (registered : env.registered = .ok ()) (set : env.nonblocking = .ok ())
    (stepped : w.step (.tryClone fd cloned (.ok ()) (some true) env) = some w') :
    w'.endpoints fd = some e ∧ e.usesCompletion = false ∧ w'.nonblocking e.file = false ∧
      ∃ clone, w'.endpoints cloned = some clone ∧ clone.pollOnly = true ∧ clone.usesCompletion = true := by
  simp only [step, here, Option.ite_none_right_eq_some, Option.some.injEq] at stepped
  obtain ⟨⟨-, vacant⟩, rfl⟩ := stepped
  have apart : fd ≠ cloned := by
    rintro rfl
    cases vacant.symm.trans here
  rw [Endpoint.tryClone_eq]
  simp only [Endpoint.newWithMode, registered, Except.map, Endpoint.settle, Endpoint.setNonblocking, set, put,
    Except.toOption, Function.update_of_ne apart, Function.update_self]
  exact ⟨here, agrees.pollOnly fd e here pollOnly,
    by simp [Endpoint.wrap, Endpoint.usesCompletion, effectiveMode],
    _, rfl, pollOnly, by simp [Endpoint.wrap, Endpoint.usesCompletion, effectiveMode]⟩

end Endpoints

/-- **When modes agree with files.**  For every run of a program that makes, clones, converts
and lets go of sockets and pipes, over drivers of either kind and whatever the calls to the
driver and the system answer: every file has the flag its values' mode needs, and every
poll-only value is in poll mode, in all states of the run, if and only if each value that
sets the flag of its file finds the other values of that file in its own mode, is in poll
mode if it is poll-only, and, if it is a pipe whose flag cannot be set, finds the flag right. -/
theorem modes_agree_iff {w t : Endpoints} {labels : List ModeLabel} (empty : w.Empty)
    (ran : endpointsMachine.exec w labels = some t) :
    endpointsMachine.Throughout Endpoints.Agrees w labels ↔
      endpointsMachine.AllSteps Endpoints.FitsIn w labels :=
  Machine.throughout_iff_allSteps (fun _ _ _ agrees fits stepped => Endpoints.Agrees.step agrees fits stepped)
    (fun _ agrees => agrees) (fun _ _ _ _ unfit stepped => Endpoints.Agrees.broken unfit stepped)
    empty.agrees ran

def ModeEnv.fine : ModeEnv := ⟨.ok (), .ok (), .ok ()⟩

/-- A poll-only socket of file 7 over a ring, and its clone. -/
def clonedOverRing : List ModeLabel :=
  [.fromStd 3 .udp 7 true (some true) .fine, .tryClone 3 4 (.ok ()) (some true) .fine]

/-- The first state has the flag the socket needs, the second no longer. -/
theorem modes_agree_cloned :
    ∃ s t, endpointsMachine.exec ⟨fun _ => false, fun _ => none⟩ (clonedOverRing.take 1) = some s ∧
      endpointsMachine.exec ⟨fun _ => false, fun _ => none⟩ clonedOverRing = some t ∧
      s.nonblocking 7 = true ∧ t.nonblocking 7 = false ∧
      (endpointsMachine.Throughout Endpoints.Agrees ⟨fun _ => false, fun _ => none⟩ clonedOverRing ↔
        endpointsMachine.AllSteps Endpoints.FitsIn ⟨fun _ => false, fun _ => none⟩ clonedOverRing) :=
  ⟨_, _, rfl, rfl, rfl, rfl, modes_agree_iff (fun _ => rfl) rfl⟩

end Vibeio.Handle
