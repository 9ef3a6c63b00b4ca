/-
# Driver.Mio -- the mio driver

The readiness driver for systems without a completion interface.  The operating
system keeps one interest per registered handle (`registry`); an event names a
token and the readiness seen.  Errors of the system are arguments, a panic is
`none`.
-/
import Vibeio.Driver.Basic

namespace Vibeio.Driver

open Vibeio.Theory

set_option autoImplicit false

def USIZE_MAX : Nat := 2 ^ 64 - 1

structure MioRegistration where
  fd : Int
  waiter : Option Waker
  interest : Option Interest
  deriving DecidableEq, Repr

/-- `registry` is what the system has registered for each token. -/
structure MioDriver where
  registrations : Slab MioRegistration
  registry : Slab Interest

/-- A `mio` event: its token and the readiness it reports. -/
structure Event where
  token : Nat
  readiness : Interest
  deriving DecidableEq, Repr

namespace MioDriver

def new : MioDriver := { registrations := .empty, registry := .empty }

/-- One round of the loop of `wait_timeout`: who is woken, and the driver. -/
def handleEvent (d : MioDriver) (event : Event) : Option Waker × MioDriver :=
  if event.token = USIZE_MAX then (none, d)
  else
    match d.registrations.get event.token with
    | none => (none, d)
    | some r =>
        -- the interest is forgotten so that the next `submit_poll` registers again
        let r' := { r with interest := none, waiter := none }
        (r.waiter, { d with registrations := d.registrations.insert event.token r' })

def handleEvents : MioDriver → List Event → List Waker × MioDriver
  | d, [] => ([], d)
  | d, event :: rest =>
      let (woken, d) := d.handleEvent event
      let (wakers, d) := d.handleEvents rest
      (woken.toList ++ wakers, d)

/-- `polled` is what `Poll::poll` returns, `events` what it filled in. -/
def waitTimeout (d : MioDriver) (polled : Except IoError Unit) (events : List Event) :
    Option (List Waker × MioDriver) :=
  match polled with
  | .ok () => some (d.handleEvents events)
  | .error err => if err.isInterrupted then some (d.handleEvents events) else none

def flush (d : MioDriver) (polled : Except IoError Unit) (events : List Event) :
    Option (List Waker × MioDriver) :=
  d.waitTimeout polled events

def wait (d : MioDriver) (polled : Except IoError Unit) (events : List Event) :
    Option (List Waker × MioDriver) :=
  d.waitTimeout polled events

/-- `key` is the vacant entry, `registered` the answer of the system. -/
def registerHandle (d : MioDriver) (fd : Int) (interest : Interest) (key : Nat)
    (registered : Except IoError Unit) : Except IoError Nat × MioDriver :=
  let registrations := d.registrations.insert key { fd := fd, waiter := none, interest := some interest }
  match registered with
  | .error err => (.error err, { d with registrations := registrations.remove key })
  | .ok () => (.ok key, { registrations := registrations, registry := d.registry.insert key interest })

def reregisterHandle (d : MioDriver) (token : Nat) (interest : Interest)
    (registered : Except IoError Unit) : Except IoError Unit × MioDriver :=
  match d.registrations.get token with
  | none => (.error (.notRegistered token), d)
  | some r =>
      match registered with
      | .error err => (.error err, d)
      | .ok () => (.ok (), {
          registrations := d.registrations.insert token { r with interest := some interest }
          registry := d.registry.insert token interest })

def deregisterHandle (d : MioDriver) (token : Nat) (deregistered : Except IoError Unit) :
    Except IoError Unit × MioDriver :=
  match d.registrations.get token with
  | none => (.error (.notRegistered token), d)
  | some _ =>
      match deregistered with
      | .error err => (.error err, d)
      | .ok () => (.ok (), {
          registrations := d.registrations.remove token, registry := d.registry.remove token })

/-- `registered` is the answer of the system, asked only if the interest has
changed. -/
def submitPoll (d : MioDriver) (token : Nat) (waker : Waker) (interest : Interest)
    (registered : Except IoError Unit) : Except IoError Unit × MioDriver :=
  match d.registrations.get token with
  | none => (.error (.notRegistered token), d)
  | some r =>
      if r.interest ≠ some interest then
        match registered with
        | .error err => (.error err, d)
        | .ok () =>
            let r := { r with interest := some interest, waiter := updateWaiter r.waiter waker }
            (.ok (), {
              registrations := d.registrations.insert token r
              registry := d.registry.insert token interest })
      else
        let r := { r with waiter := updateWaiter r.waiter waker }
        (.ok (), { d with registrations := d.registrations.insert token r })

end MioDriver

end Vibeio.Driver
