/-
# Fs.Write -- positional writes of a file

`File::write_at` is the mirror of `read_at`: an empty buffer is sent back with `Ok(0)`,
then `WriteAtOp` over the completion driver or `write_at_blocking`, on this thread or on
the blocking pool.  All of them hand the content of the buffer to the system and leave the
buffer alone.

* `pwrite` is the effect of a write on the bytes of a file; a write beyond the end leaves a
  hole, which reads as zeros.
* `writeAt_spec`: every way puts a prefix of the content at the offset, as long as the count
  it returns, and nothing when it fails.
-/
import Vibeio.Fs.File

namespace Vibeio.Fs

open Vibeio.Driver
open Vibeio.Io
open IoBuf IoBufMut

set_option autoImplicit false

/-! ## The effect of a write -/

/-- The bytes of a file after `data` has been written at `offset`. -/
def pwrite (bytes : List UInt8) (offset : Nat) (data : List UInt8) : List UInt8 :=
  if data = [] then bytes
  else
    (bytes ++ List.replicate (offset - bytes.length) 0).take offset ++ data ++
      bytes.drop (offset + data.length)

/-- The byte a reader finds at a position. -/
def byteAt (bytes : List UInt8) (position : Nat) : UInt8 := bytes.getD position 0

@[simp] theorem pwrite_nil (bytes : List UInt8) (offset : Nat) : pwrite bytes offset [] = bytes :=
  if_pos rfl

/-- A write at the end of a file appends. -/
theorem pwrite_end (bytes data : List UInt8) : pwrite bytes bytes.length data = bytes ++ data := by
  unfold pwrite
  split
  · simp [*]
  · simp

theorem length_front (bytes : List UInt8) (offset : Nat) :
    ((bytes ++ List.replicate (offset - bytes.length) (0 : UInt8)).take offset).length = offset := by
  simp only [List.length_take, List.length_append, List.length_replicate]
  omega

theorem length_pwrite {bytes data : List UInt8} {offset : Nat} (some_ : data ≠ []) :
    (pwrite bytes offset data).length = max bytes.length (offset + data.length) := by
  rw [pwrite, if_neg some_]
  simp only [List.length_append, length_front, List.length_drop]
  omega

/-- A write that goes on where another ended is one write. -/
theorem pwrite_pwrite (bytes : List UInt8) (offset : Nat) (first second : List UInt8) :
    pwrite (pwrite bytes offset first) (offset + first.length) second =
      pwrite bytes offset (first ++ second) := by
  by_cases nothing : second = []
  · simp [nothing]
  by_cases fresh : first = []
  · simp [fresh]
  have longer : offset + first.length - (pwrite bytes offset first).length = 0 := by
    rw [length_pwrite fresh]
    omega
  have both : first ++ second ≠ [] := by simp [fresh]
  rw [pwrite, if_neg nothing, longer, pwrite, if_neg fresh, pwrite, if_neg both]
  have front := length_front bytes offset
  simp only [List.replicate_zero, List.append_nil, List.length_append]
  rw [List.take_left' (by rw [List.length_append, front]), List.drop_append, List.drop_drop]
  have past : offset + first.length + second.length -
      ((bytes ++ List.replicate (offset - bytes.length) 0).take offset ++ first).length =
      second.length := by
    rw [List.length_append, front]
    omega
  rw [past, List.drop_eq_nil_of_le (by rw [List.length_append, front]; omega)]
  simp [Nat.add_assoc]

theorem byteAt_append_zeros (bytes : List UInt8) (n position : Nat) :
    byteAt (bytes ++ List.replicate n 0) position = byteAt bytes position := by
  simp only [byteAt, List.getD_eq_getElem?_getD, List.getElem?_append, List.getElem?_replicate]
  split
  · rfl
  · rename_i past
    rw [List.getElem?_eq_none (by omega)]
    split <;> rfl

/-- Outside the range a write leaves every position as it was. -/
theorem byteAt_pwrite_outside {bytes data : List UInt8} {offset position : Nat}
    (outside : position < offset ∨ offset + data.length ≤ position) :
    byteAt (pwrite bytes offset data) position = byteAt bytes position := by
  by_cases nothing : data = []
  · simp [nothing]
  have front := length_front bytes offset
  rw [pwrite, if_neg nothing]
  rcases outside with before | behind
  · calc byteAt (_ ++ data ++ bytes.drop (offset + data.length)) position
        = byteAt (bytes ++ List.replicate (offset - bytes.length) 0) position := by
          simp only [byteAt, List.getD_eq_getElem?_getD, List.append_assoc]
          rw [List.getElem?_append_left (by omega), List.getElem?_take_of_lt before]
      _ = byteAt bytes position := byteAt_append_zeros _ _ _
  · simp only [byteAt, List.getD_eq_getElem?_getD]
    rw [List.getElem?_append_right (by rw [List.length_append, front]; omega), List.length_append,
      front, List.getElem?_drop, Nat.add_sub_cancel' behind]

/-! ## The system and the ways to it -/

/-- The largest offset, `off_t` being an `i64`. -/
def OFF_MAX : Nat := 2 ^ 63 - 1

/-- What the system decides during one write: an error code or the most bytes it takes, and
what concerns the blocking pool. -/
structure WriteEnv where
  answer : Except Nat Nat
  cloned : Except IoError Unit
  spawned : Bool

/-- A write that was carried out or not: its result, the buffer handed back, and the bytes
that went to the file. -/
structure WriteOutcome (B : Type) where
  result : Except IoError Nat
  buf : B
  data : List UInt8

variable {B : Type} [IoBuf B]

/-- How many bytes of a request the system takes. -/
def taken (offset len limit : Nat) : Nat := min limit (min len (OFF_MAX - offset))

namespace WriteAtOp

def tooLarge : IoError := .custom .invalidInput "write buffer is too large for io_uring"

/-- The length in the entry `build_completion_entry` builds. -/
def buildCompletionEntry (buf : B) : Except IoError Nat :=
  if bufLen buf < 2 ^ 32 then .ok (bufLen buf) else .error tooLarge

/-- What `poll_completion` makes of the result of its request. -/
def finish (result : Int) : Except IoError Nat :=
  if result < 0 then .error (.os (-result).toNat) else .ok result.toNat

def run (buf : B) (offset : Nat) (answer : Except Nat Nat) : WriteOutcome B :=
  match buildCompletionEntry buf with
  | .error err => ⟨.error err, buf, []⟩
  | .ok len =>
      match answer with
      -- the error codes of the system are positive
      | .error code => ⟨finish (-(code + 1 : Nat)), buf, []⟩
      | .ok limit =>
          let w := taken offset (min len MAX_RW_COUNT) limit
          ⟨finish w, buf, (content buf).take w⟩

end WriteAtOp

def writeAtBlocking (buf : B) (offset : Nat) (answer : Except Nat Nat) : WriteOutcome B :=
  match answer with
  | .error code => ⟨.error (.os (code + 1)), buf, []⟩
  | .ok limit =>
      let w := taken offset (content buf).length limit
      ⟨.ok w, buf, (content buf).take w⟩

def writeAtInBlockingPool (buf : B) (offset : Nat) (env : WriteEnv) : WriteOutcome B :=
  match env.cloned with
  | .error err => ⟨.error err, buf, []⟩
  | .ok () =>
      if env.spawned then writeAtBlocking buf offset env.answer
      else ⟨.error blockingPoolIoError, buf, []⟩

namespace File

def writeAt (f : File) (buf : B) (offset : Nat) (env : WriteEnv) : WriteOutcome B :=
  if bufLen buf = 0 then ⟨.ok 0, buf, []⟩
  else
    match f.io with
    | .completion => WriteAtOp.run buf offset env.answer
    | .blocking =>
        if f.offload then writeAtInBlockingPool buf offset env
        else writeAtBlocking buf offset env.answer

/-- The file after bytes have gone to it. -/
def wrote (f : File) (offset : Nat) (data : List UInt8) : File :=
  { f with bytes := pwrite f.bytes offset data }

/-- `AsyncWrite for File`. -/
def write (f : File) (buf : B) (env : WriteEnv) : WriteOutcome B × File :=
  let outcome := f.writeAt buf f.cursor env
  let file := f.wrote f.cursor outcome.data
  match outcome.result with
  | .ok n => (outcome, { file with cursor := saturatingAddU64 f.cursor n })
  | .error _ => (outcome, file)

end File

/-! ## What every way does -/

/-- An outcome puts a prefix of the content on the file. -/
structure WriteOutcome.Prefix (o : WriteOutcome B) (buf : B) (offset : Nat) : Prop where
  kept : o.buf = buf
  counted : ∀ n, o.result = .ok n → o.data = (content buf).take n ∧ n ≤ bufLen buf ∧
    (n ≠ 0 → offset + n ≤ OFF_MAX)
  failed : ∀ err, o.result = .error err → o.data = []

theorem WriteOutcome.Prefix.of_error (buf : B) (offset : Nat) (err : IoError) :
    WriteOutcome.Prefix ⟨.error err, buf, []⟩ buf offset :=
  ⟨rfl, (fun _ same => by cases same), fun _ _ => rfl⟩

theorem taken_le (offset len limit : Nat) :
    taken offset len limit ≤ len ∧ (taken offset len limit ≠ 0 → offset + taken offset len limit ≤ OFF_MAX) := by
  unfold taken
  omega

theorem WriteAtOp.finish_count (n : Nat) : finish n = .ok n := by
  unfold finish
  rw [if_neg (by omega), Int.toNat_natCast]

theorem WriteAtOp.run_spec (buf : B) (offset : Nat) (answer : Except Nat Nat) :
    (WriteAtOp.run buf offset answer).Prefix buf offset := by
  unfold run buildCompletionEntry
  split
  · exact .of_error buf offset _
  · rename_i len entry
    have length : len = bufLen buf := by
      split at entry
      · exact (Except.ok.inj entry).symm
      · cases entry
    cases answer with
    | error code =>
        have failed : finish (-(code + 1 : Nat)) = .error (.os (code + 1)) := by
          unfold finish
          rw [if_pos (by omega)]
          congr
        simp only [failed]
        exact .of_error buf offset _
    | ok limit =>
        obtain ⟨most, reach⟩ := taken_le offset (min len MAX_RW_COUNT) limit
        refine ⟨rfl, ?_, ?_⟩
        · intro n same
          simp only [finish_count, Except.ok.injEq] at same
          subst same
          exact ⟨rfl, by omega, reach⟩
        · intro err same
          simp only [finish_count] at same
          cases same

theorem writeAtBlocking_spec (buf : B) (offset : Nat) (answer : Except Nat Nat) :
    (writeAtBlocking buf offset answer).Prefix buf offset := by
  cases answer with
  | error code => exact .of_error buf offset _
  | ok limit =>
      obtain ⟨most, reach⟩ := taken_le offset (content buf).length limit
      have short : (content buf).length ≤ bufLen buf := by
        simp only [content, List.length_take]
        omega
      refine ⟨rfl, ?_, fun err same => by cases same⟩
      intro n same
      cases same
      exact ⟨rfl, by omega, reach⟩

/-- **Every way to write does the same kind of thing.** -/
theorem writeAt_spec (f : File) (buf : B) (offset : Nat) (env : WriteEnv) :
    (f.writeAt buf offset env).Prefix buf offset := by
  unfold File.writeAt
  split
  · refine ⟨rfl, ?_, fun err same => by cases same⟩
    intro n same
    cases same
    exact ⟨by simp, by omega, by omega⟩
  · cases f.io with
    | completion => exact WriteAtOp.run_spec buf offset env.answer
    | blocking =>
        simp only
        split
        · unfold writeAtInBlockingPool
          cases env.cloned with
          | error err => exact .of_error buf offset err
          | ok _ =>
              simp only
              split
              · exact writeAtBlocking_spec buf offset env.answer
              · exact .of_error buf offset _
        · exact writeAtBlocking_spec buf offset env.answer

end Vibeio.Fs
