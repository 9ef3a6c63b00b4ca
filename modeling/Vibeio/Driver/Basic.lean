/-
# Driver.Basic -- what every I/O driver has in common

Interests, registration modes, `io::Error`, and the table of completion slots.
The io_uring and the IOCP driver treat that table alike, down to the order of
the writes, so it is modelled once: `getCompletionResult`, `setCompletionWaker`,
`ignoreCompletion` and `complete` (the branch of `drain_cq` and of
`process_entries` that handles a finished request).

A slot is a slab index.  What a driver keeps in a slot beside the shared fields
(nothing for io_uring, the `OVERLAPPED` block for IOCP) is the parameter `X`.
-/
import Vibeio.Core
import Vibeio.Theory.Slab

namespace Vibeio.Driver

open Vibeio.Theory

set_option autoImplicit false

/-- `mio::Interest`, as far as the drivers are given one. -/
inductive Interest where
  | readable
  | writable
  | both
  deriving DecidableEq, Repr

namespace Interest

def isReadable : Interest → Bool
  | readable => true
  | writable => false
  | both => true

def isWritable : Interest → Bool
  | readable => false
  | writable => true
  | both => true

/-- `i` asks for nothing that `registered` does not deliver. -/
def Within (i registered : Interest) : Prop :=
  (i.isReadable → registered.isReadable) ∧ (i.isWritable → registered.isWritable)

instance (i registered : Interest) : Decidable (i.Within registered) :=
  inferInstanceAs (Decidable (_ ∧ _))

end Interest

inductive RegistrationMode where
  | poll
  | completion
  deriving DecidableEq, Repr

/-! ## `io::Error` -/

inductive ErrorKind where
  | notFound
  | unsupported
  | other
  | notConnected
  | invalidInput
  | invalidData
  | writeZero
  | unexpectedEof
  | wouldBlock
  | brokenPipe
  | alreadyExists
  deriving DecidableEq, Repr

/-- An error is a code of the operating system or a kind with a message. -/
inductive IoError where
  | os (code : Nat)
  | custom (kind : ErrorKind) (message : String)
  deriving DecidableEq, Repr

def ENOENT : Nat := 2
def EINTR : Nat := 4
def EBADF : Nat := 9
def EAGAIN : Nat := 11
def EBUSY : Nat := 16
def ETIME : Nat := 62

namespace IoError

def rawOsError : IoError → Option Nat
  | os code => some code
  | custom _ _ => none

/-- `err.kind() == ErrorKind::Interrupted`. -/
def isInterrupted (err : IoError) : Bool := err.rawOsError == some EINTR

/-- `err.kind() == ErrorKind::WouldBlock`. -/
def isWouldBlock : IoError → Bool
  | os code => code == EAGAIN
  | custom kind _ => kind == .wouldBlock

def notRegistered (token : Nat) : IoError :=
  .custom .notFound s!"I/O token {token} is not registered with this driver"

def notPollMode (token : Nat) : IoError :=
  .custom .unsupported s!"I/O token {token} is registered for completion mode, not poll mode"

end IoError

/-! ## Completion slots -/

/-- What `submit_completion` answers: a result, the token to come back with, or an
error. -/
inductive CompletionIoResult where
  | ok (result : Int)
  | retry (token : Nat)
  | submitErr (err : IoError)
  deriving Repr

/-- `ignored_data`: the buffers of a dropped operation, known by the operation
that owned them. -/
structure IgnoredData where
  op : Nat
  deriving DecidableEq, Repr

structure Completion (X : Type) where
  waiter : Option Waker
  completed : Option Int
  ignoredData : Option IgnoredData
  context : X
  deriving DecidableEq, Repr

abbrev CompletionTable (X : Type) := Slab (Completion X)

namespace CompletionTable

variable {X : Type}

def getCompletionResult (table : CompletionTable X) (token : Nat) :
    Option Int × CompletionTable X :=
  let completed := (table.get token).bind (·.completed)
  (completed, if completed.isSome then table.remove token else table)

def setCompletionWaker (table : CompletionTable X) (token : Nat) (waker : Waker) :
    CompletionTable X :=
  table.modify token fun c => { c with waiter := updateWaiter c.waiter waker }

def ignoreCompletion (table : CompletionTable X) (token : Nat) (data : IgnoredData) :
    CompletionTable X :=
  table.modify token fun c => { c with ignoredData := some data }

/-- A request has finished: store the result, take the waiter, and give the slot
back if the operation was dropped.  `release` is what happens to the context. -/
def complete (release : X → X) (table : CompletionTable X) (token : Nat) (result : Int) :
    Option Waker × CompletionTable X :=
  match table.get token with
  | some c =>
      let done : Completion X :=
        { c with waiter := none, completed := some result, context := release c.context }
      (c.waiter, if c.ignoredData.isSome then table.remove token else table.insert token done)
  | none => (none, table)

/-! What a lookup sees after each of them. -/

theorem getCompletionResult_some {table rest : CompletionTable X} {token : Nat} {r : Int} :
    table.getCompletionResult token = (some r, rest) ↔
      (∃ c, table.get token = some c ∧ c.completed = some r) ∧ rest = table.remove token := by
  unfold getCompletionResult
  cases found : table.get token with
  | none => simp
  | some c =>
      cases result : c.completed with
      | none => simp [result]
      | some s =>
          simp only [Option.bind_some, result, Option.isSome_some, if_true, Prod.mk.injEq,
            Option.some.injEq, exists_eq_left']
          constructor
          · rintro ⟨rfl, rfl⟩
            exact ⟨rfl, rfl⟩
          · rintro ⟨rfl, rfl⟩
            exact ⟨rfl, rfl⟩

theorem getCompletionResult_none {table rest : CompletionTable X} {token : Nat}
    (polled : table.getCompletionResult token = (none, rest)) :
    rest = table ∧ ∀ c, table.get token = some c → c.completed = none := by
  unfold getCompletionResult at polled
  cases found : table.get token with
  | none => simp_all
  | some c =>
      cases result : c.completed with
      | none => simp_all
      | some s => simp [found, result] at polled

theorem get_setCompletionWaker (table : CompletionTable X) (token j : Nat) (waker : Waker) :
    (table.setCompletionWaker token waker).get j =
      if j = token then (table.get token).map fun c => { c with waiter := some waker }
      else table.get j := by
  simp only [setCompletionWaker, Slab.get_modify, updateWaiter_eq]

theorem get_ignoreCompletion (table : CompletionTable X) (token j : Nat) (data : IgnoredData) :
    (table.ignoreCompletion token data).get j =
      if j = token then (table.get token).map fun c => { c with ignoredData := some data }
      else table.get j := by
  simp only [ignoreCompletion, Slab.get_modify]

theorem complete_of_ignored (release : X → X) {table : CompletionTable X} {token : Nat}
    (result : Int) {c : Completion X} (found : table.get token = some c)
    (ignored : c.ignoredData.isSome) :
    table.complete release token result = (c.waiter, table.remove token) := by
  simp [complete, found, ignored]

theorem complete_of_kept (release : X → X) {table : CompletionTable X} {token : Nat}
    (result : Int) {c : Completion X} (found : table.get token = some c)
    (kept : c.ignoredData = none) :
    table.complete release token result = (c.waiter, table.insert token
      { c with waiter := none, completed := some result, context := release c.context }) := by
  simp [complete, found, kept]

theorem get_complete_of_ne (release : X → X) (table : CompletionTable X) {token k : Nat} (result : Int)
    (other : k ≠ token) : (table.complete release token result).2.get k = table.get k := by
  cases found : table.get token with
  | none => simp [complete, found]
  | some c =>
      cases kept : c.ignoredData with
      | none => simp [complete_of_kept release result found kept, Slab.get_insert, other]
      | some data =>
          simp [complete_of_ignored release result found (by simp [kept]), Slab.get_remove, other]

end CompletionTable

/-! ## Requests the system holds -/

/-- The system answers the `i`-th of the requests it holds, in whatever order. -/
theorem coe_eq_cons_eraseIdx {α : Type} {held : List α} {i : Nat} {a : α} (found : held[i]? = some a) :
    (held : Multiset α) = a ::ₘ ↑(held.eraseIdx i) := by
  obtain ⟨bound, value⟩ := List.getElem?_eq_some_iff.mp found
  rw [Multiset.cons_coe, Multiset.coe_eq_coe, ← value]
  exact (List.getElem_cons_eraseIdx_perm bound).symm

end Vibeio.Driver
