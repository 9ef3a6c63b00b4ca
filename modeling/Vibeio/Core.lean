/-
# Core -- the parts of the language and its standard library the model uses

* `u64` arithmetic is natural-number arithmetic with the bound made explicit:
  `addU64` is `+` under overflow checks (`none` is the panic), `asU64` is `as u64`,
  `saturatingAddU64` stays at the largest value.
* A `Waker` is its identity.  `will_wake` compares the two pointers a waker is
  made of, so it is equality, and waking is recorded by the caller.
-/
import Mathlib.Algebra.Group.Nat.Defs

namespace Vibeio

set_option autoImplicit false

/-- `a + b` on `u64`; `none` is the overflow panic. -/
def addU64 (a b : Nat) : Option Nat := if a + b < 2 ^ 64 then some (a + b) else none

/-- `n as u64`: truncation. -/
def asU64 (n : Nat) : Nat := n % 2 ^ 64

/-- `u64::saturating_add`. -/
def saturatingAddU64 (a b : Nat) : Nat := min (a + b) (2 ^ 64 - 1)

/-- `n as i32` for a count of bytes. -/
def asI32 (n : Nat) : Int := (n : Int).bmod (2 ^ 32)

/-- A count that comes through an `i32` as something not negative is itself. -/
theorem asI32_of_nonneg {n : Nat} (small : n < 2 ^ 32) (nonneg : 0 ≤ asI32 n) : asI32 n = n := by
  unfold asI32 at *
  rw [Int.bmod_def] at *
  split at nonneg <;> omega

theorem addU64_eq_some {a b c : Nat} : addU64 a b = some c ↔ c = a + b ∧ a + b < 2 ^ 64 := by
  unfold addU64
  split <;> simp_all [eq_comm]

/-- What polling a future returns. -/
inductive Poll (α : Type) where
  | pending
  | ready (value : α)
  deriving DecidableEq, Repr

structure Waker where
  id : Nat
  deriving DecidableEq, Repr

def Waker.willWake (a b : Waker) : Bool := a == b

/-- `update_waiter`, the same in every driver: keep the stored waker when it
would wake the same task, replace it otherwise. -/
def updateWaiter (slot : Option Waker) (waker : Waker) : Option Waker :=
  if slot.any (·.willWake waker) then slot else some waker

@[simp] theorem updateWaiter_eq (slot : Option Waker) (waker : Waker) :
    updateWaiter slot waker = some waker := by
  cases slot with
  | none => rfl
  | some stored =>
      by_cases same : stored = waker <;> simp [updateWaiter, Waker.willWake, same]

end Vibeio
