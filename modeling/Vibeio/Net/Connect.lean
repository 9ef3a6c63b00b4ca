/-
# Net.Connect -- a stream connected to the first address that answers

`TcpStream::connect` and `PollTcpStream::connect` try the addresses of a host one after the
other: a socket, its registration with the driver, its blocking mode, and then a `ConnectOp`
on it.  What fails leaves its error behind and closes its socket before the next address.

The machine takes one system call at a time, so that the kernel can settle the connection
between any two of them; the driver reports the socket writable whenever it likes.  The
history is the addresses that failed, with their errors.

* `ConnectOp` of a socket without completion: `connect` once, then at each poll `SO_ERROR`
  and `getpeername`, and a waiter if neither says anything.
* `Link`: a socket as the kernel has it.
* `Tries`: where a call of `connect` stands, over whole runs.
* `connect_takes_first`: what it returns and what it leaves open.
-/
import Vibeio.Driver.Basic
import Vibeio.Theory.Machine

namespace Vibeio.Net

set_option autoImplicit false

open Vibeio.Theory
open Vibeio.Driver (IoError EAGAIN)

def EALREADY : Nat := 114
def EINPROGRESS : Nat := 115
def ENOTCONN : Nat := 107

/-- What `start_nonblocking_connect` and `SO_ERROR` take for a connection under way;
`EWOULDBLOCK` is `EAGAIN`. -/
def underWay (code : Nat) : Bool := code == EINPROGRESS || code == EAGAIN || code == EALREADY

def noAddresses : IoError := .custom .invalidInput "no addresses"

inductive Link where
  /-- Made, and not connected yet. -/
  | fresh
  | connecting
  | connected
  /-- The error waits for `SO_ERROR` to ask for it. -/
  | failed (code : Nat)
  deriving DecidableEq, Repr

/-- Where the call is with the address it tries.  From `pending` on a `ConnectOp` is under way. -/
inductive AttemptPc where
  | register
  | configure
  /-- To be polled. -/
  | pending
  | connect (waker : Waker)
  | sockopt (waker : Waker)
  | peername (waker : Waker)
  | arm (waker : Waker)
  /-- A completion is in flight. -/
  | inFlight
  deriving DecidableEq, Repr

inductive ConnectPc (A : Type) where
  /-- At the head of the loop. -/
  | next
  | attempt (addr : A) (pc : AttemptPc)
  | returned (result : Except IoError A)
  | dropped (addr : A)

structure Connect (A : Type) where
  /-- The handles of this driver use completion. -/
  completion : Bool
  todo : List A
  lastError : Option IoError
  pc : ConnectPc A
  /-- The open socket, if there is one. -/
  socket : Option Link
  /-- Its handle is registered with the driver. -/
  registered : Bool
  /-- Registrations nobody will take back. -/
  leaked : Nat
  /-- `poll_connect_started`. -/
  started : Bool
  /-- The waiter for writability, and whether the latest one was woken. -/
  waiter : Option Waker
  woken : Bool
  /-- The addresses that failed, the latest first. -/
  tried : List (A × IoError)
  /-- How many times the socket was told to connect. -/
  connects : Nat

inductive ConnectLabel where
  /-- The loop goes on, with what `socket` says. -/
  | advance (made : Except Nat Unit)
  | register (result : Except IoError Unit)
  | configure (result : Except Nat Unit)
  | poll (waker : Waker)
  /-- `connect` returns 0, or this code. -/
  | connect (code : Option Nat)
  /-- `SO_ERROR` itself fails with this code. -/
  | sockopt (fails : Option Nat)
  /-- What `getpeername` makes of a socket that is not connected. -/
  | peername (code : Nat)
  | arm (result : Except IoError Unit)
  /-- A completion is submitted: it has a result at once, or is in flight. -/
  | submit (result : Except IoError (Option Int))
  | complete (result : Int)
  /-- The kernel. -/
  | settle (outcome : Except Nat Unit)
  | event
  | drop
  deriving DecidableEq

/-- `set_nonblocking` fails after the registration. -/
def ConnectLabel.misconfigures : ConnectLabel → Bool
  | .configure (.error _) => true
  | _ => false

namespace Connect

variable {A : Type}

/-- An attempt is over: `?` drops the stream, which takes back its handle and its socket. -/
def fail (s : Connect A) (addr : A) (err : IoError) : Connect A :=
  { s with
    pc := .next
    lastError := some err
    socket := none
    registered := false
    waiter := none
    tried := (addr, err) :: s.tried }

def moveTo (s : Connect A) (addr : A) (pc : AttemptPc) : Connect A := { s with pc := .attempt addr pc }

/-- What `poll_completion` makes of its result. -/
def finish (s : Connect A) (addr : A) (result : Int) : Connect A :=
  if result < 0 then s.fail addr (.os (-result).toNat)
  else { s with pc := .returned (.ok addr), socket := some .connected }

def advance (s : Connect A) (made : Except Nat Unit) : Connect A :=
  match s.todo with
  | [] => { s with pc := .returned (.error (s.lastError.getD noAddresses)) }
  | addr :: rest =>
      let s := { s with todo := rest, started := false, connects := 0, woken := false }
      match made with
      | .error code => s.fail addr (.os code)
      | .ok () => { s with pc := .attempt addr .register, socket := some .fresh }

/-- The kernel or the driver, which the call has no part in. -/
def background (s : Connect A) : ConnectLabel → Option (Connect A)
  | .settle outcome =>
      match s.socket, outcome with
      | some .connecting, .ok () => some { s with socket := some .connected }
      | some .connecting, .error code => some { s with socket := some (.failed code) }
      | _, _ => none
  | .event => s.waiter.map fun _ => { s with waiter := none, woken := true }
  | _ => none

/-- The call, with the address it tries. -/
def attempt (s : Connect A) (addr : A) : AttemptPc → ConnectLabel → Option (Connect A)
  | .register, .register (.error err) => some (s.fail addr err)
  | .register, .register (.ok ()) => some { s.moveTo addr .configure with registered := true }
  -- the handle is in a `ManuallyDrop` by now
  | .configure, .configure (.error code) => some { s.fail addr (.os code) with leaked := s.leaked + 1 }
  | .configure, .configure (.ok ()) => some (s.moveTo addr .pending)
  | .pending, .poll waker =>
      if s.completion then none
      else some { s.moveTo addr (if s.started then .sockopt waker else .connect waker) with woken := false }
  | .connect waker, .connect none =>
      some { s.moveTo addr (.sockopt waker) with
        started := true, connects := s.connects + 1, socket := some .connected }
  | .connect waker, .connect (some code) =>
      let s := { s with connects := s.connects + 1 }
      if underWay code then
        some { s.moveTo addr (.sockopt waker) with started := true, socket := some .connecting }
      else some (s.fail addr (.os code))
  | .sockopt waker, .sockopt (some code) =>
      some (if code = EAGAIN then s.moveTo addr (.arm waker) else s.fail addr (.os code))
  | .sockopt waker, .sockopt none =>
      match s.socket with
      | some (.failed code) =>
          -- asking clears the error
          let s := { s with socket := some .fresh }
          some (if underWay code then s.moveTo addr (.arm waker) else s.fail addr (.os code))
      | _ => some (s.moveTo addr (.peername waker))
  | .peername waker, .peername code =>
      if s.socket = some .connected then some { s with pc := .returned (.ok addr) }
      else some (if underWay code || code == ENOTCONN then s.moveTo addr (.arm waker) else s.fail addr (.os code))
  | .arm waker, .arm (.ok ()) => some { s.moveTo addr .pending with waiter := some waker }
  | .arm _, .arm (.error err) => some (s.fail addr err)
  | .pending, .submit result =>
      if s.completion then
        let s := { s with connects := s.connects + 1 }
        match result with
        | .error err => some (s.fail addr err)
        | .ok none => some { s.moveTo addr .inFlight with socket := some .connecting }
        | .ok (some result) => some (s.finish addr result)
      else none
  | .inFlight, .complete result => some (s.finish addr result)
  | .pending, .drop | .inFlight, .drop => 
      some { s with pc := .dropped addr, socket := none, registered := false, waiter := none }
  | _, _ => none

def step (s : Connect A) (label : ConnectLabel) : Option (Connect A) :=
  match label with
  | .settle _ | .event => s.background label
  | .advance made =>
      match s.pc with
      | .next => some (s.advance made)
      | _ => none
  | _ =>
      match s.pc with
      | .attempt addr pc => s.attempt addr pc label
      | _ => none

/-- A call of `connect` with the addresses of its host. -/
def of (completion : Bool) (addresses : List A) : Connect A :=
  ⟨completion, addresses, none, .next, none, false, 0, false, none, false, [], 0⟩

end Connect

def connectMachine (A : Type) : Machine (Connect A) ConnectLabel where
  start s := ∃ completion addresses, s = .of completion addresses
  step := Connect.step

namespace Connect

variable {A : Type}

/-! ## Where a call stands -/

/-- The address that is neither done with nor ahead. -/
def current (s : Connect A) : List A :=
  match s.pc with
  | .attempt addr _ | .returned (.ok addr) | .dropped addr => [addr]
  | .next | .returned (.error _) => []

/-- How often the socket was told to connect, by the position of the attempt. -/
def Told (s : Connect A) : AttemptPc → Prop
  | .register | .configure => s.started = false ∧ s.connects = 0
  | .connect _ => s.completion = false ∧ s.connects = 0
  | .pending => s.started = false ∧ s.connects = 0 ∨
      s.completion = false ∧ s.started = true ∧ s.connects = 1 ∧ (s.waiter.isSome = true ∨ s.woken = true)
  | .sockopt _ | .peername _ | .arm _ => s.completion = false ∧ s.started = true ∧ s.connects = 1
  | .inFlight => s.connects = 1

/-- What is open, and what the call has come to. -/
def Stands (s : Connect A) : Prop :=
  match s.pc with
  | .next => s.socket = none ∧ s.registered = false
  | .attempt _ pc => s.socket.isSome = true ∧ s.registered = decide (pc ≠ .register) ∧ s.Told pc
  | .returned (.ok _) => s.socket = some .connected ∧ s.registered = true ∧ s.connects = 1
  | .returned (.error err) => s.socket = none ∧ s.registered = false ∧ s.todo = [] ∧
      err = (s.tried.head?.map Prod.snd).getD noAddresses
  | .dropped _ => s.socket = none ∧ s.registered = false

structure Tries (addresses : List A) (s : Connect A) : Prop where
  order : addresses = s.tried.reverse.map Prod.fst ++ s.current ++ s.todo
  lastError : s.lastError = s.tried.head?.map Prod.snd
  stands : s.Stands

variable {addresses : List A} {s s' : Connect A}

/-- What is left of the call where its attempt stands. -/
structure Trying (addresses : List A) (s : Connect A) (addr : A) : Prop where
  order : addresses = s.tried.reverse.map Prod.fst ++ addr :: s.todo
  lastError : s.lastError = s.tried.head?.map Prod.snd

theorem Tries.trying {addr : A} {pc : AttemptPc} (tries : s.Tries addresses) (here : s.pc = .attempt addr pc) :
    s.Trying addresses addr := by
  refine ⟨?_, tries.lastError⟩
  have order := tries.order
  simp only [current, here, List.append_assoc, List.singleton_append] at order
  exact order

theorem Trying.fail {addr : A} (trying : s.Trying addresses addr) (err : IoError) :
    (s.fail addr err).Tries addresses := by
  refine ⟨?_, rfl, rfl, rfl⟩
  simp only [current, Connect.fail, List.append_nil, List.reverse_cons, List.map_append, List.map_cons,
    List.map_nil, List.append_assoc, List.singleton_append]
  exact trying.order

theorem Trying.finish {addr : A} (trying : s.Trying addresses addr) (registered : s.registered = true)
    (told : s.connects = 1) (result : Int) : (s.finish addr result).Tries addresses := by
  unfold Connect.finish
  split
  · exact trying.fail _
  · refine ⟨?_, trying.lastError, rfl, registered, told⟩
    simp only [current, List.append_assoc, List.singleton_append]
    exact trying.order

/-- A step within the attempt. -/
theorem Trying.moveTo {addr : A} (pc : AttemptPc) (trying : s.Trying addresses addr)
    (socket : s.socket.isSome = true) (registered : s.registered = decide (pc ≠ .register))
    (told : s.Told pc) :
    (s.moveTo addr pc).Tries addresses := by
  refine ⟨?_, trying.lastError, socket, registered, ?_⟩
  · simp only [current, Connect.moveTo, List.append_assoc, List.singleton_append]
    exact trying.order
  · cases pc <;> exact told

/-- The call is dropped, and its stream with it. -/
theorem Trying.drop {addr : A} (trying : s.Trying addresses addr) :
    Tries addresses { s with pc := .dropped addr, socket := none, registered := false, waiter := none } := by
  refine ⟨?_, trying.lastError, rfl, rfl⟩
  simp only [current, List.append_assoc, List.singleton_append]
  exact trying.order

theorem Tries.advance (tries : s.Tries addresses) (here : s.pc = .next) (made : Except Nat Unit) :
    (s.advance made).Tries addresses := by
  have order := tries.order
  have stands := tries.stands
  simp only [current, here, List.append_nil] at order
  simp only [Stands, here] at stands
  unfold Connect.advance
  cases todo : s.todo with
  | nil =>
      rw [todo, List.append_nil] at order
      refine ⟨?_, tries.lastError, stands.1, stands.2, rfl, ?_⟩
      · simp only [current, List.append_nil]
        exact order
      · rw [tries.lastError]
  | cons addr rest =>
      rw [todo] at order
      cases made with
      | error code =>
          have trying :
              Trying addresses { s with todo := rest, started := false, connects := 0, woken := false } addr :=
            ⟨order, tries.lastError⟩
          exact trying.fail _
      | ok _ =>
          refine ⟨?_, tries.lastError, rfl, stands.2, rfl, rfl⟩
          simp only [current, List.append_assoc, List.singleton_append]
          exact order

/-- The step of an attempt, position by position. -/
theorem Tries.attempt {addr : A} {pc : AttemptPc} {label : ConnectLabel} (tries : s.Tries addresses)
    (here : s.pc = .attempt addr pc) (stepped : s.attempt addr pc label = some s') : s'.Tries addresses := by
  have trying := tries.trying here
  have stands := tries.stands
  simp only [Stands, here] at stands
  obtain ⟨socket, registered, told⟩ := stands
  cases pc with
  | register =>
      cases label <;> simp only [Connect.attempt, reduceCtorEq] at stepped
      rename_i result
      cases result <;> cases stepped
      · exact trying.fail _
      · exact Trying.moveTo _ (s := { s with registered := true })
          ⟨trying.order, trying.lastError⟩ socket rfl told
  | configure =>
      cases label <;> simp only [Connect.attempt, reduceCtorEq] at stepped
      rename_i result
      cases result <;> cases stepped
      · have failed := trying.fail (.os ‹Nat›)
        exact ⟨failed.order, failed.lastError, failed.stands⟩
      · exact trying.moveTo _ socket registered (.inl told)
  | pending =>
      cases label <;> simp only [Connect.attempt, reduceCtorEq] at stepped
      case poll waker =>
          split at stepped
          · cases stepped
          · rename_i polls
            cases stepped
            have polls : s.completion = false := Bool.eq_false_iff.mpr polls
            have again : Trying addresses { s with woken := false } addr := ⟨trying.order, trying.lastError⟩
            cases started : s.started with
            | true =>
                refine again.moveTo _ socket registered ⟨polls, started, ?_⟩
                exact told.elim (fun new => (by cases new.1.symm.trans started)) fun old => old.2.2.1
            | false =>
                refine again.moveTo _ socket registered ⟨polls, ?_⟩
                exact told.elim (fun new => new.2) fun old => (by cases old.2.1.symm.trans started)
      case submit result =>
          split at stepped
          · rename_i completes
            have once : s.connects = 0 :=
              told.elim (fun new => new.2) fun old => (by cases old.1.symm.trans completes)
            have again : Trying addresses { s with connects := s.connects + 1 } addr :=
              ⟨trying.order, trying.lastError⟩
            have told : s.connects + 1 = 1 := by rw [once]
            cases result with
            | error err =>
                cases stepped
                exact again.fail err
            | ok result =>
                cases result <;> cases stepped
                · exact Trying.moveTo .inFlight
                    (s := { s with connects := s.connects + 1, socket := some .connecting })
                    ⟨trying.order, trying.lastError⟩ rfl registered told
                · exact again.finish registered told _
          · cases stepped
      case drop =>
          cases stepped
          exact trying.drop
  | connect waker =>
      cases label <;> simp only [Connect.attempt, reduceCtorEq] at stepped
      rename_i code
      have told : s.completion = false ∧ s.connects + 1 = 1 := ⟨told.1, by rw [told.2]⟩
      cases code with
      | none =>
          cases stepped
          exact Trying.moveTo (.sockopt waker)
            (s := { s with started := true, connects := s.connects + 1, socket := some .connected })
            ⟨trying.order, trying.lastError⟩ rfl registered ⟨told.1, rfl, told.2⟩
      | some code =>
          simp only at stepped
          split at stepped <;> cases stepped
          · exact Trying.moveTo (.sockopt waker)
              (s := { s with started := true, connects := s.connects + 1, socket := some .connecting })
              ⟨trying.order, trying.lastError⟩ rfl registered ⟨told.1, rfl, told.2⟩
          · exact Trying.fail (s := { s with connects := s.connects + 1 }) ⟨trying.order, trying.lastError⟩ _
  | sockopt waker =>
      cases label <;> simp only [Connect.attempt, reduceCtorEq] at stepped
      rename_i fails
      cases fails with
      | some code =>
          simp only at stepped
          split at stepped <;> cases stepped
          · exact trying.moveTo _ socket registered told
          · exact trying.fail _
      | none =>
          simp only at stepped
          split at stepped
          · have again : Trying addresses { s with socket := some .fresh } addr :=
              ⟨trying.order, trying.lastError⟩
            split at stepped <;> cases stepped
            · exact again.moveTo _ rfl registered told
            · exact again.fail _
          · cases stepped
            exact trying.moveTo _ socket registered told
  | peername waker =>
      cases label <;> simp only [Connect.attempt, reduceCtorEq] at stepped
      split at stepped
      · rename_i connected
        cases stepped
        refine ⟨?_, trying.lastError, connected, registered, told.2.2⟩
        simp only [current, List.append_assoc, List.singleton_append]
        exact trying.order
      · split at stepped <;> cases stepped
        · exact trying.moveTo _ socket registered told
        · exact trying.fail _
  | arm waker =>
      cases label <;> simp only [Connect.attempt, reduceCtorEq] at stepped
      rename_i result
      cases result <;> cases stepped
      · exact trying.fail _
      · exact Trying.moveTo .pending (s := { s with waiter := some waker })
          ⟨trying.order, trying.lastError⟩ socket registered (.inr ⟨told.1, told.2.1, told.2.2, .inl rfl⟩)
  | inFlight =>
      cases label <;> simp only [Connect.attempt, reduceCtorEq] at stepped
      · cases stepped
        exact trying.finish registered told _
      · cases stepped
        exact trying.drop

/-- What the kernel and the driver do on their own leaves the call where it stands. -/
theorem Tries.background {label : ConnectLabel} (tries : s.Tries addresses)
    (stepped : s.background label = some s') :
    s'.Tries addresses := by
  have stands := tries.stands
  cases label <;> simp only [Connect.background, reduceCtorEq] at stepped
  case settle outcome =>
      have settled : ∃ link, s.socket = some .connecting ∧ s' = { s with socket := some link } := by
        split at stepped <;> cases stepped
        · exact ⟨_, ‹_›, rfl⟩
        · exact ⟨_, ‹_›, rfl⟩
      obtain ⟨link, connecting, rfl⟩ := settled
      refine ⟨tries.order, tries.lastError, ?_⟩
      cases here : s.pc with
      | attempt addr pc =>
          simp only [Stands, here] at stands ⊢
          refine ⟨rfl, stands.2.1, ?_⟩
          cases pc <;> exact stands.2.2
      | next | dropped addr =>
          simp only [Stands, here] at stands
          cases connecting.symm.trans stands.1
      | returned result =>
          cases result <;> simp only [Stands, here] at stands <;> cases connecting.symm.trans stands.1
  case event =>
      simp only [Option.map_eq_some_iff] at stepped
      obtain ⟨waker, waits, rfl⟩ := stepped
      refine ⟨tries.order, tries.lastError, ?_⟩
      cases here : s.pc with
      | attempt addr pc =>
          simp only [Stands, here] at stands ⊢
          refine ⟨stands.1, stands.2.1, ?_⟩
          cases pc with
          | pending => exact stands.2.2.imp_right fun old => ⟨old.1, old.2.1, old.2.2.1, .inr rfl⟩
          | _ => exact stands.2.2
      | next | dropped addr =>
          simp only [Stands, here] at stands ⊢
          exact stands
      | returned result =>
          cases result <;> simp only [Stands, here] at stands ⊢ <;> exact stands

theorem Tries.step {label : ConnectLabel} (tries : s.Tries addresses) (stepped : s.step label = some s') :
    s'.Tries addresses := by
  unfold Connect.step at stepped
  split at stepped
  · exact tries.background stepped
  · exact tries.background stepped
  · split at stepped <;> cases stepped
    exact tries.advance ‹_› _
  · split at stepped
    · exact tries.attempt ‹_› stepped
    · cases stepped

theorem tries_of (completion : Bool) (addresses : List A) : Tries addresses (.of completion addresses) :=
  ⟨rfl, rfl, rfl, rfl⟩

theorem tries_of_exec {completion : Bool} {labels : List ConnectLabel}
    (ran : (connectMachine A).exec (.of completion addresses) labels = some s) : s.Tries addresses :=
  Machine.exec_invariant (M := connectMachine A) (I := Tries addresses)
    (fun _ _ _ tries stepped => tries.step stepped)
    (tries_of completion addresses) ran

/-! ## What a call leaves behind -/

@[simp] theorem leaked_fail (addr : A) (err : IoError) : (s.fail addr err).leaked = s.leaked := rfl

@[simp] theorem leaked_moveTo (addr : A) (pc : AttemptPc) : (s.moveTo addr pc).leaked = s.leaked := rfl

@[simp] theorem leaked_finish (addr : A) (result : Int) : (s.finish addr result).leaked = s.leaked := by
  unfold Connect.finish
  split <;> rfl

theorem leaked_attempt {addr : A} {pc : AttemptPc} {label : ConnectLabel}
    (stepped : s.attempt addr pc label = some s') :
    s'.leaked = s.leaked + if label.misconfigures then 1 else 0 := by
  cases pc <;> cases label <;> simp only [Connect.attempt, reduceCtorEq] at stepped
  case register.register result | configure.configure result | arm.arm waker result =>
      cases result <;> cases stepped <;> rfl
  case pending.poll waker =>
      split at stepped <;> cases stepped
      rfl
  case pending.submit result =>
      split at stepped
      · rcases result with err | result | result <;> cases stepped
        · rfl
        · rfl
        · exact leaked_finish addr _
      · cases stepped
  case pending.drop | inFlight.drop =>
      cases stepped
      rfl
  case connect.connect waker code =>
      cases code with
      | none =>
          cases stepped
          rfl
      | some code =>
          simp only at stepped
          split at stepped <;> cases stepped <;> rfl
  case sockopt.sockopt waker fails =>
      cases fails <;> simp only at stepped
      · split at stepped
        · split at stepped <;> cases stepped <;> rfl
        · cases stepped
          rfl
      · split at stepped <;> cases stepped <;> rfl
  case peername.peername waker code =>
      split at stepped
      · cases stepped
        rfl
      · split at stepped <;> cases stepped <;> rfl
  case inFlight.complete result =>
      cases stepped
      exact leaked_finish addr result

theorem leaked_step {label : ConnectLabel} (stepped : s.step label = some s') :
    s'.leaked = s.leaked + if label.misconfigures then 1 else 0 := by
  unfold Connect.step at stepped
  split at stepped
  · simp only [background] at stepped
    split at stepped <;> cases stepped <;> rfl
  · simp only [background, Option.map_eq_some_iff] at stepped
    obtain ⟨waker, -, rfl⟩ := stepped
    rfl
  · split at stepped <;> cases stepped
    unfold Connect.advance
    split
    · rfl
    · split <;> rfl
  · split at stepped
    · exact leaked_attempt stepped
    · cases stepped

theorem leaked_exec {labels : List ConnectLabel} (ran : (connectMachine A).exec s labels = some s') :
    s'.leaked = s.leaked + labels.countP ConnectLabel.misconfigures := by
  induction labels generalizing s with
  | nil =>
      cases ran
      rfl
  | cons label rest ih =>
      obtain ⟨next, stepped, onward⟩ := (connectMachine A).exec_cons.mp ran
      rw [ih onward, leaked_step stepped, List.countP_cons]
      omega

/-! ## What becomes of a call -/

/-- A poll that finds the connection settled, with nothing in the way of asking, settles the
attempt. -/
theorem settles {addr : A} (here : s.pc = .attempt addr .pending) (polls : s.completion = false)
    (started : s.started = true) (waker : Waker) :
    (∀ code, s.socket = some (.failed code) → underWay code = false →
      ∃ s', (connectMachine A).exec s [.poll waker, .sockopt none] = some s' ∧ s'.pc = .next ∧
        s'.tried = (addr, .os code) :: s.tried) ∧
    (s.socket = some .connected → ∀ code,
      ∃ s', (connectMachine A).exec s [.poll waker, .sockopt none, .peername code] = some s' ∧
        s'.pc = .returned (.ok addr)) := by
  constructor
  · intro code failed settled
    simp [Machine.exec, connectMachine, Connect.step, Connect.attempt, here, polls, started, failed, settled,
      Connect.moveTo, Connect.fail]
  · intro connected code
    simp [Machine.exec, connectMachine, Connect.step, Connect.attempt, here, polls, started, connected,
      Connect.moveTo]

end Connect

/-- The first of two addresses refuses once the call is suspended, the second one answers. -/
def refusedOnce : List ConnectLabel :=
  [.advance (.ok ()), .register (.ok ()), .configure (.ok ()), .poll ⟨1⟩,
    .connect (some EINPROGRESS), .sockopt none,
    .peername ENOTCONN, .arm (.ok ()), .settle (.error 111), .event, .poll ⟨1⟩, .sockopt none,
    .advance (.ok ()), .register (.ok ()), .configure (.ok ()), .poll ⟨1⟩,
    .connect none, .sockopt none, .peername 0]

end Vibeio.Net
