/-
# Fs.File -- positional reads of a file, and copying from one

`File::read_at` has two ways to the system: `ReadAtOp` over the completion driver,
which asks for as many bytes as the buffer can hold and then sets its length, and
`read_at_blocking`, on this thread or on the blocking pool, which asks for as many
bytes as the buffer's length says and leaves the length alone.  Before either, an
empty buffer is sent back with `Ok(0)`.

* The system reads from the file's bytes.  A `ReadEnv` holds what it decides:
  an error, or how many bytes it delivers at most.
* `read_at_agrees_iff`: when the two ways are the same to a caller.
* `copy_file_iff`: `copy` passes an empty vector, so it copies from an empty file
  and from no other.
-/
import Vibeio.Io.Copy

namespace Vibeio.Fs

open Vibeio.Driver
open Vibeio.Io
open IoBuf IoBufMut

set_option autoImplicit false

/-! ## The file and the system -/

/-- `read(2)` moves at most this many bytes. -/
def MAX_RW_COUNT : Nat := 0x7ffff000

/-- The bytes a positional read delivers: at most `len` from `offset` on, and no
more than `limit + 1`, so at least one when there is one to be had. -/
def pread (bytes : List UInt8) (offset len limit : Nat) : List UInt8 :=
  (bytes.drop offset).take (min (min len (limit + 1)) MAX_RW_COUNT)

/-- What the system decides during one read.  `answer` is an error code or the
`limit` of the read; the rest concerns the blocking pool. -/
structure ReadEnv where
  answer : Except Nat Nat
  cloned : Except IoError Unit
  spawned : Bool

inductive FileIo where
  | completion
  | blocking
  deriving DecidableEq, Repr

/-- `offload` is `offload_fs() && current_driver().is_some()`. -/
structure File where
  bytes : List UInt8
  io : FileIo
  offload : Bool
  cursor : Nat
  deriving DecidableEq, Repr

variable {B : Type} [IoBufMut B]

namespace ReadAtOp

def tooLarge : IoError := .custom .invalidInput "read buffer is too large for io_uring"

/-- The length in the entry `build_completion_entry` builds. -/
def buildCompletionEntry (buf : B) : Except IoError Nat :=
  if bufCapacity buf < 2 ^ 32 then .ok (bufCapacity buf) else .error tooLarge

theorem buildCompletionEntry_small {buf : B} (small : bufCapacity buf < 2 ^ 32) :
    buildCompletionEntry buf = .ok (bufCapacity buf) := if_pos small

theorem buildCompletionEntry_large {buf : B} (large : ¬ bufCapacity buf < 2 ^ 32) :
    buildCompletionEntry buf = .error tooLarge := if_neg large

/-- What `poll_completion` makes of the result of its request. -/
def finish (buf : B) (result : Int) : Except IoError Nat × B :=
  if result < 0 then (.error (.os (-result).toNat), buf)
  else (.ok result.toNat, setBufInit buf result.toNat)

/-- The operation from its submission to its end. -/
def run (bytes : List UInt8) (buf : B) (offset : Nat) (answer : Except Nat Nat) :
    Except IoError Nat × B :=
  match buildCompletionEntry buf with
  | .error err => (.error err, buf)
  | .ok len =>
      match answer with
      | .error code => finish buf (-code)
      | .ok limit =>
          let data := pread bytes offset len limit
          finish (store buf data) data.length

end ReadAtOp

/-- The slice `read_at_blocking` is given is as long as the buffer's content. -/
def blockingRequest (buf : B) : Nat := bufLen buf

def readAtBlocking (bytes : List UInt8) (buf : B) (offset : Nat) (answer : Except Nat Nat) :
    Except IoError Nat × B :=
  match answer with
  | .error code => (.error (.os code), buf)
  | .ok limit =>
      let data := pread bytes offset (blockingRequest buf) limit
      (.ok data.length, store buf data)

def blockingPoolIoError : IoError := .custom .other "can't spawn blocking task for file I/O"

def readAtInBlockingPool (bytes : List UInt8) (buf : B) (offset : Nat) (env : ReadEnv) :
    Except IoError Nat × B :=
  match env.cloned with
  | .error err => (.error err, buf)
  | .ok () =>
      if env.spawned then readAtBlocking bytes buf offset env.answer
      else (.error blockingPoolIoError, buf)

namespace File

def readAt (f : File) (buf : B) (offset : Nat) (env : ReadEnv) : Except IoError Nat × B :=
  if bufLen buf = 0 then (.ok 0, buf)
  else
    match f.io with
    | .completion => ReadAtOp.run f.bytes buf offset env.answer
    | .blocking =>
        if f.offload then readAtInBlockingPool f.bytes buf offset env
        else readAtBlocking f.bytes buf offset env.answer

/-- `AsyncRead for File`. -/
def read (f : File) (buf : B) (env : ReadEnv) : (Except IoError Nat × B) × File :=
  let result := f.readAt buf f.cursor env
  match result.1 with
  | .ok n => (result, { f with cursor := saturatingAddU64 f.cursor n })
  | .error _ => (result, f)

end File

/-! ## The two ways -/

/-- A read and another are the same to the caller. -/
structure SameRead (x y : Except IoError Nat × B) : Prop where
  count : x.1 = y.1
  bytes : memory x.2 = memory y.2
  len : bufLen x.2 = bufLen y.2

/-- Both ways ask for as many bytes, and delivered as many they are the same. -/
def PathsAgree (bytes : List UInt8) (offload : Bool) (cursor : Nat) (buf : B) (offset : Nat)
    (completion blocking : ReadEnv) : Prop :=
  ReadAtOp.buildCompletionEntry buf = .ok (blockingRequest buf) ∧
    SameRead (File.readAt ⟨bytes, .completion, offload, cursor⟩ buf offset completion)
      (File.readAt ⟨bytes, .blocking, offload, cursor⟩ buf offset blocking)

theorem pread_length_le (bytes : List UInt8) (offset len limit : Nat) :
    (pread bytes offset len limit).length ≤ len := by
  simp only [pread, List.length_take]
  omega

/-- As many bytes from one place are the same bytes. -/
theorem pread_eq_of_length_eq {bytes : List UInt8} {offset len len' limit limit' : Nat}
    (same : (pread bytes offset len limit).length = (pread bytes offset len' limit').length) :
    pread bytes offset len limit = pread bytes offset len' limit' := by
  simp only [pread, List.length_take] at same ⊢
  exact List.take_eq_take_iff.mpr same

/-- The environment of a read that is carried out. -/
def ReadEnv.delivers (limit : Nat) : ReadEnv := ⟨.ok limit, .ok (), true⟩

theorem readAt_blocking {bytes : List UInt8} {offload : Bool} {cursor : Nat} {buf : B} {offset limit : Nat}
    (nonempty : 1 ≤ bufLen buf) :
    File.readAt ⟨bytes, .blocking, offload, cursor⟩ buf offset (.delivers limit) =
      (.ok (pread bytes offset (bufLen buf) limit).length,
        store buf (pread bytes offset (bufLen buf) limit)) := by
  have asked : bufLen buf ≠ 0 := by omega
  cases offload <;>
    simp [File.readAt, asked, readAtInBlockingPool, readAtBlocking, ReadEnv.delivers, blockingRequest]

theorem readAt_completion {bytes : List UInt8} {offload : Bool} {cursor : Nat} {buf : B} {offset limit : Nat}
    (nonempty : 1 ≤ bufLen buf) (small : bufCapacity buf < 2 ^ 32) :
    File.readAt ⟨bytes, .completion, offload, cursor⟩ buf offset (.delivers limit) =
      (.ok (pread bytes offset (bufCapacity buf) limit).length,
        setBufInit (store buf (pread bytes offset (bufCapacity buf) limit))
          (pread bytes offset (bufCapacity buf) limit).length) := by
  have asked : bufLen buf ≠ 0 := by omega
  have counted (n : Nat) : ¬ (n : Int) < 0 := by omega
  simp [File.readAt, asked, ReadAtOp.run, ReadAtOp.buildCompletionEntry_small small, ReadAtOp.finish,
    ReadEnv.delivers, counted]

/-- With the same bytes delivered, the two ways differ at most in the length they
leave. -/
theorem sameRead_iff {bytes : List UInt8} {offload : Bool} {cursor : Nat} {buf : Buffer}
    {offset limit limit' n : Nat} (nonempty : 1 ≤ bufLen buf) (small : bufCapacity buf < 2 ^ 32)
    (completed : (pread bytes offset (bufCapacity buf) limit).length = n)
    (blocked : (pread bytes offset (bufLen buf) limit').length = n) :
    SameRead (File.readAt ⟨bytes, .completion, offload, cursor⟩ buf offset (.delivers limit))
      (File.readAt ⟨bytes, .blocking, offload, cursor⟩ buf offset (.delivers limit')) ↔
      (buf.isVec = true → n = bufLen buf) := by
  have data : pread bytes offset (bufCapacity buf) limit = pread bytes offset (bufLen buf) limit' :=
    pread_eq_of_length_eq (completed.trans blocked.symm)
  have room : n ≤ bufCapacity buf := completed ▸ pread_length_le _ _ _ _
  rw [readAt_completion nonempty small, readAt_blocking nonempty, data, blocked]
  have length : bufLen (setBufInit (store buf (pread bytes offset (bufLen buf) limit')) n) =
      if buf.isVec then n else bufLen buf := by
    rw [Buffer.bufLen_setBufInit (by simpa using room), Buffer.isVec_store, Buffer.bufLen_store]
  constructor
  · intro same vec
    have left := same.len
    simp only [length, vec, if_true, Buffer.bufLen_store] at left
    exact left
  · intro full
    refine ⟨rfl, Buffer.memory_setBufInit _ _, ?_⟩
    simp only [length, Buffer.bufLen_store]
    split
    · rename_i vec
      exact full vec
    · rfl

/-- What is decided around a copy from a file: the reads by the system, and how many
bytes beyond the first the writer accepts. -/
structure CopyFileEnv where
  limit : Nat → Nat
  accept : Nat → Nat

structure FileCopy where
  run : CopyRun
  file : File

namespace FileCopy

def start (file : File) : FileCopy := { run := .start, file := file }

/-- `copy(&mut file, &mut writer)` from one await to the next.  The writer accepts at
least one byte of what it is given. -/
def next (env : CopyFileEnv) (k : Nat) (s : FileCopy) : FileCopy :=
  match s.run.state with
  | .reading buffer copied =>
      let (answer, file) := s.file.read buffer (.delivers (env.limit k))
      { run := s.run.record (.afterRead copied answer.1 answer.2) (.read answer.1 answer.2), file := file }
  | .writing cursorBuf read copied =>
      let w := min (env.accept k + 1) (bufLen cursorBuf)
      { s with run := s.run.record (.afterWrite cursorBuf read copied (.ok w)) (.write (.ok w)) }
  | .flushing copied => { s with run := s.run.record (.afterFlush copied (.ok ())) (.flush (.ok ())) }
  | .done _ => s

def after (env : CopyFileEnv) (s : FileCopy) : Nat → FileCopy
  | 0 => s
  | k + 1 => (s.after env k).next env k

/-- The copy has returned the length of the file and the writer has the file. -/
def Copied (s : FileCopy) : Prop :=
  s.run.state = .done (.ok s.file.bytes.length) ∧ s.run.sink = s.file.bytes

end FileCopy

/-- However long a copy from a file goes on, it has read nothing. -/
theorem copyFile_empty_handed (env : CopyFileEnv) (file : File) (k : Nat) :
    let s := (FileCopy.start file).after env k
    s.file.bytes = file.bytes ∧ s.run.sink = [] ∧
      (s.run.state = .start ∨ s.run.state = .flushing 0 ∨ s.run.state = .done (.ok 0)) := by
  induction k with
  | zero => exact ⟨rfl, rfl, .inl rfl⟩
  | succ k ih =>
      obtain ⟨same, nothing, reading | flushing | done⟩ := ih
      · refine ⟨?_, ?_, .inr (.inl ?_)⟩ <;>
          simp [FileCopy.after, FileCopy.next, reading, CopyState.start, File.read, File.readAt,
            VecU8.clear, CopyRun.record, CopyState.afterRead, same, nothing]
      · refine ⟨?_, ?_, .inr (.inr ?_)⟩ <;>
          simp [FileCopy.after, FileCopy.next, flushing, CopyRun.record, CopyState.afterFlush, same, nothing]
      · refine ⟨?_, ?_, .inr (.inr ?_)⟩ <;> simp [FileCopy.after, FileCopy.next, done, same, nothing]

/-- **`copy` takes nothing from a file**: it returns the file's length and the writer
has the file only if the file is empty. -/
theorem copy_file_iff (file : File) (env : CopyFileEnv) :
    (∃ k, ((FileCopy.start file).after env k).Copied) ↔ file.bytes = [] := by
  constructor
  · rintro ⟨k, returned, received⟩
    obtain ⟨same, nothing, -⟩ := copyFile_empty_handed env file k
    rw [nothing, same] at received
    exact received.symm
  · intro empty
    refine ⟨2, ?_⟩
    simp [FileCopy.Copied, FileCopy.after, FileCopy.next, FileCopy.start, CopyRun.start, CopyState.start,
      File.read, File.readAt, VecU8.clear, CopyRun.record, CopyState.afterRead, CopyState.afterFlush, empty]

/-- A file of one byte over io_uring, read and written a byte at a time: the copy never
has it. -/
theorem copy_file_one_byte :
    ¬ ∃ k, ((FileCopy.start ⟨[7], .completion, false, 0⟩).after ⟨fun _ => 0, fun _ => 0⟩ k).Copied := by
  rintro ⟨k, -, received⟩
  obtain ⟨same, nothing, -⟩ := copyFile_empty_handed ⟨fun _ => 0, fun _ => 0⟩ ⟨[7], .completion, false, 0⟩ k
  rw [nothing, same] at received
  cases received

end Vibeio.Fs
