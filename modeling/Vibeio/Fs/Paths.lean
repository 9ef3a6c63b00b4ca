/-
# Fs.Paths -- whole files: `fs::write` and `fs::read`

Both open the file and go over it with the cursor the `File` keeps: `write` hands what is
left of the contents to `File::write` until nothing is left, `read` takes pieces into one
array of 8192 bytes until a read returns nothing.  The chunks of the two have nothing to do
with each other.

* `write_then_read`: what has been written whole is read back, and under it the law of the
  cursor: calls of `read` and `write` act on ranges that follow one another.
-/
import Vibeio.Fs.Exact

namespace Vibeio.Fs

open Vibeio.Driver
open Vibeio.Io
open IoBuf IoBufMut

set_option autoImplicit false

/-! ## Opening -/

structure OpenOptions where
  read : Bool := false
  write : Bool := false
  append : Bool := false
  truncate : Bool := false
  create : Bool := false
  createNew : Bool := false

/-- What is decided outside: whether the system opens the file at all, and the way it is
used then. -/
structure OpenEnv where
  opened : Except IoError Unit
  io : FileIo
  offload : Bool

def EEXIST : Nat := 17

namespace OpenOptions

def validate (o : OpenOptions) : Except IoError Unit :=
  let writing := o.write || o.append
  if !o.read && !writing then
    .error (.custom .invalidInput "must enable read, write, or append access")
  else if (o.truncate || o.create || o.createNew) && !writing then
    .error (.custom .invalidInput "truncate/create options require write or append access")
  else .ok ()

/-- The bytes of the file the system opens; `disk` is what is at the path. -/
def openBytes (o : OpenOptions) : Option (List UInt8) → Except IoError (List UInt8)
  | none => if o.create || o.createNew then .ok [] else .error (.os ENOENT)
  | some bytes =>
      if o.createNew then .error (.os EEXIST)
      else if o.truncate then .ok [] else .ok bytes

def initialCursorForAppend (o : OpenOptions) (bytes : List UInt8) : Nat :=
  if o.append then bytes.length else 0

def openFile (o : OpenOptions) (disk : Option (List UInt8)) (env : OpenEnv) : Except IoError File := do
  o.validate
  env.opened
  let bytes ← o.openBytes disk
  return { bytes := bytes, io := env.io, offload := env.offload, cursor := o.initialCursorForAppend bytes }

end OpenOptions

/-! ## `fs::write` -/

/-- `slice.to_vec()`. -/
def toVec (slice : List UInt8) : VecU8 := ⟨slice, slice.length, Nat.le_refl _⟩

inductive PathWrite where
  | writing (file : File) (slice : List UInt8)
  | returned (disk : Option (List UInt8)) (result : Except IoError Unit)

namespace PathWrite

/-- `while !slice.is_empty()`; behind the loop `flush` returns `Ok`. -/
def loop (file : File) (slice : List UInt8) : PathWrite :=
  if slice.isEmpty then .returned (some file.bytes) (.ok ()) else .writing file slice

def start (disk : Option (List UInt8)) (contents : List UInt8) (env : OpenEnv) : PathWrite :=
  match OpenOptions.openFile { write := true, create := true, truncate := true } disk env with
  | .error err => .returned disk (.error err)
  | .ok file => .loop file contents

def next (env : WriteEnv) : PathWrite → PathWrite
  | .returned disk result => .returned disk result
  | .writing file slice =>
      let (outcome, file) := file.write (toVec slice) env
      match outcome.result with
      | .error err => .returned (some file.bytes) (.error err)
      | .ok w =>
          if w = 0 then
            .returned (some file.bytes) (.error (.custom .writeZero "failed to write whole buffer"))
          else .loop file (slice.drop w)

def after (env : Nat → WriteEnv) (s : PathWrite) : Nat → PathWrite
  | 0 => s
  | k + 1 => next (env k) (after env s k)

end PathWrite

/-! ## `fs::read` -/

inductive PathRead where
  | reading (file : File) (bytes : List UInt8) (buf : ArrayU8 8192)
  | returned (result : Except IoError (List UInt8))

namespace PathRead

def start (disk : Option (List UInt8)) (env : OpenEnv) : PathRead :=
  match OpenOptions.openFile { read := true } disk env with
  | .error err => .returned (.error err)
  | .ok file => .reading file [] ⟨List.replicate 8192 0, List.length_replicate⟩

def next (env : ReadEnv) : PathRead → PathRead
  | .returned result => .returned result
  | .reading file bytes buf =>
      let ((read, buf), file) := file.read buf env
      match read with
      | .error err => .returned (.error err)
      | .ok n =>
          if n = 0 then .returned (.ok bytes)
          else .reading file (bytes ++ (memory buf).take (min (bufLen buf) n)) buf

def after (env : Nat → ReadEnv) (s : PathRead) : Nat → PathRead
  | 0 => s
  | k + 1 => next (env k) (after env s k)

end PathRead

/-! ## The law of the cursor -/

inductive Call where
  | read (buf : Buffer) (env : ReadEnv)
  | write (buf : Buffer) (env : WriteEnv)

/-- A call of `File::read` or `File::write`, with the count it returned (nothing, when it
failed). -/
def File.perform (f : File) : Call → Nat × File
  | .read buf env => ((f.read buf env).1.1.toOption.getD 0, (f.read buf env).2)
  | .write buf env => ((f.write buf env).1.result.toOption.getD 0, (f.write buf env).2)

/-- A call acts on the `n` bytes from the cursor on and on nothing else. -/
def File.ActsOn (f : File) (n : Nat) (f' : File) : Call → Prop
  | .read buf env =>
      f'.bytes = f.bytes ∧ n ≤ f.remaining f.cursor ∧
        (memory (f.read buf env).1.2).take n = (f.bytes.drop f.cursor).take n
  | .write buf _ => n ≤ bufLen buf ∧ f'.bytes = pwrite f.bytes f.cursor ((content buf).take n)

/-- Each call acts on a range that starts at the cursor, and moves the cursor to its end. -/
def File.Consecutive (f : File) : List Call → Prop
  | [] => True
  | call :: rest =>
      (f.perform call).2.cursor = f.cursor + (f.perform call).1 ∧
      f.ActsOn (f.perform call).1 (f.perform call).2 call ∧
      (f.perform call).2.Consecutive rest

/-- Files and cursors are within the offsets of the system. -/
structure File.Sized (f : File) : Prop where
  bytes : f.bytes.length ≤ OFF_MAX
  cursor : f.cursor ≤ OFF_MAX

/-- A read of `n` bytes: they are in the file from the offset on, and at the front of the buffer. -/
def File.Delivers (f : File) (offset n : Nat) (returned : Buffer) : Prop :=
  n ≤ f.remaining offset ∧ (memory returned).take n = (f.bytes.drop offset).take n

theorem File.delivers_nothing (f : File) (offset : Nat) (returned : Buffer) : f.Delivers offset 0 returned :=
  ⟨Nat.zero_le _, by simp⟩

/-- Both ways store what `pread` delivers, for a request within the capacity. -/
theorem File.delivers_pread (f : File) (buf : Buffer) (offset : Nat) {len limit : Nat}
    (room : len ≤ bufCapacity buf) :
    f.Delivers offset (pread f.bytes offset len limit).length (store buf (pread f.bytes offset len limit)) := by
  have bounded := pread_length_le f.bytes offset len limit
  constructor
  · simp only [pread, File.remaining, List.length_take, List.length_drop]
    omega
  · rw [Buffer.memory_store, take_overwrite (by unfold bufCapacity at room; omega)]
    simp only [pread, List.length_take]
    rw [List.take_eq_take_iff]
    omega

theorem readAtBlocking_delivers (f : File) (buf : Buffer) (offset : Nat) {answer : Except Nat Nat} {n : Nat}
    (read : (readAtBlocking f.bytes buf offset answer).1 = .ok n) :
    f.Delivers offset n (readAtBlocking f.bytes buf offset answer).2 := by
  cases answer with
  | error code => cases read
  | ok limit =>
      cases read
      exact f.delivers_pread buf offset (Buffer.fits buf)

theorem ReadAtOp.run_delivers (f : File) (buf : Buffer) (offset : Nat) {answer : Except Nat Nat} {n : Nat}
    (read : (ReadAtOp.run f.bytes buf offset answer).1 = .ok n) :
    f.Delivers offset n (ReadAtOp.run f.bytes buf offset answer).2 := by
  unfold ReadAtOp.run at read ⊢
  by_cases small : bufCapacity buf < 2 ^ 32
  · rw [ReadAtOp.buildCompletionEntry_small small] at read ⊢
    cases answer with
    | error code =>
        simp only [ReadAtOp.finish] at read ⊢
        split at read
        · cases read
        · rename_i nonneg
          rw [if_neg nonneg]
          cases read
          have zero : (-(code : Int)).toNat = 0 := by omega
          rw [zero]
          exact f.delivers_nothing offset _
    | ok limit =>
        have counted : ¬ ((pread f.bytes offset (bufCapacity buf) limit).length : Int) < 0 := by omega
        simp only [ReadAtOp.finish, if_neg counted] at read ⊢
        cases read
        obtain ⟨reach, same⟩ := @File.delivers_pread f buf offset _ limit (Nat.le_refl _)
        exact ⟨reach, by rw [Buffer.memory_setBufInit]; exact same⟩
  · rw [ReadAtOp.buildCompletionEntry_large small] at read
    cases read

/-- What a read of any kind leaves in the buffer. -/
theorem readAt_spec (f : File) (buf : Buffer) (offset : Nat) (env : ReadEnv) (n : Nat)
    (read : (f.readAt buf offset env).1 = .ok n) : f.Delivers offset n (f.readAt buf offset env).2 := by
  unfold File.readAt at read ⊢
  by_cases empty : bufLen buf = 0
  · rw [if_pos empty] at read ⊢
    cases read
    exact f.delivers_nothing offset _
  rw [if_neg empty] at read ⊢
  cases io : f.io with
  | completion =>
      simp only [io] at read ⊢
      exact ReadAtOp.run_delivers f buf offset read
  | blocking =>
      simp only [io] at read ⊢
      split at read
      · rename_i pool
        rw [if_pos pool]
        unfold readAtInBlockingPool at read ⊢
        cases cloned : env.cloned with
        | error err =>
            rw [cloned] at read
            cases read
        | ok _ =>
            simp only [cloned] at read ⊢
            split at read
            · rename_i spawned
              rw [if_pos spawned]
              exact readAtBlocking_delivers f buf offset read
            · cases read
      · rename_i here
        rw [if_neg here]
        exact readAtBlocking_delivers f buf offset read

theorem saturatingAddU64_of_le {a n : Nat} (bound : a + n ≤ OFF_MAX) : saturatingAddU64 a n = a + n := by
  unfold saturatingAddU64 OFF_MAX at *
  omega

theorem File.Sized.perform_read {f : File} (sized : f.Sized) (buf : Buffer) (env : ReadEnv) :
    (f.perform (.read buf env)).2.cursor = f.cursor + (f.perform (.read buf env)).1 ∧
    f.ActsOn (f.perform (.read buf env)).1 (f.perform (.read buf env)).2 (.read buf env) ∧
    (f.perform (.read buf env)).2.Sized := by
  have spec := readAt_spec f buf f.cursor env
  rcases answer : f.readAt buf f.cursor env with ⟨result, returned⟩
  rw [answer] at spec
  cases result with
  | error err =>
      have read : f.read buf env = ((.error err, returned), f) := by simp [File.read, answer]
      simp only [File.perform, File.ActsOn, read]
      exact ⟨rfl, ⟨trivial, Nat.zero_le _, rfl⟩, sized⟩
  | ok n =>
      have read : f.read buf env =
          ((.ok n, returned), { f with cursor := saturatingAddU64 f.cursor n }) := by
        simp [File.read, answer]
      simp only [File.perform, File.ActsOn, read]
      obtain ⟨available, same⟩ := spec n rfl
      have bytes := sized.bytes
      have cursor := sized.cursor
      have reach : f.cursor + n ≤ OFF_MAX := by
        unfold File.remaining at available
        omega
      have moved := saturatingAddU64_of_le reach
      refine ⟨moved, ⟨trivial, available, same⟩, ⟨bytes, ?_⟩⟩
      show saturatingAddU64 f.cursor n ≤ OFF_MAX
      omega

theorem File.Sized.perform_write {f : File} (sized : f.Sized) (buf : Buffer) (env : WriteEnv) :
    (f.perform (.write buf env)).2.cursor = f.cursor + (f.perform (.write buf env)).1 ∧
    f.ActsOn (f.perform (.write buf env)).1 (f.perform (.write buf env)).2 (.write buf env) ∧
    (f.perform (.write buf env)).2.Sized := by
  have spec := writeAt_spec f buf f.cursor env
  rcases outcome : f.writeAt buf f.cursor env with ⟨result, returned, data⟩
  rw [outcome] at spec
  obtain ⟨-, counted, failed⟩ := spec
  have bytes := sized.bytes
  have cursor := sized.cursor
  cases result with
  | error err =>
      cases failed err rfl
      have written : f.write buf env = (⟨.error err, returned, []⟩, f) := by
        simp [File.write, outcome, File.wrote]
      simp only [File.perform, File.ActsOn, written]
      exact ⟨rfl, ⟨Nat.zero_le _, by simp [Except.toOption]⟩, sized⟩
  | ok n =>
      obtain ⟨rfl, bounded, reach⟩ := counted n rfl
      have written : f.write buf env = (⟨.ok n, returned, (content buf).take n⟩,
          { f.wrote f.cursor ((content buf).take n) with cursor := saturatingAddU64 f.cursor n }) := by
        simp [File.write, outcome]
      simp only [File.perform, File.ActsOn, written]
      have within : f.cursor + n ≤ OFF_MAX := by
        by_cases nothing : n = 0
        · omega
        · exact reach nothing
      have moved := saturatingAddU64_of_le within
      refine ⟨moved, ⟨bounded, rfl⟩, ⟨?_, ?_⟩⟩
      · show (pwrite f.bytes f.cursor ((content buf).take n)).length ≤ OFF_MAX
        by_cases nothing : (content buf).take n = []
        · rw [nothing, pwrite_nil]
          exact bytes
        · rw [length_pwrite nothing, List.length_take]
          omega
      · show saturatingAddU64 f.cursor n ≤ OFF_MAX
        omega

theorem File.Sized.consecutive {f : File} (sized : f.Sized) (calls : List Call) :
    f.Consecutive calls := by
  induction calls generalizing f with
  | nil => trivial
  | cons call rest ih =>
      cases call with
      | read buf env =>
          obtain ⟨moved, acts, later⟩ := sized.perform_read buf env
          exact ⟨moved, acts, ih later⟩
      | write buf env =>
          obtain ⟨moved, acts, later⟩ := sized.perform_write buf env
          exact ⟨moved, acts, ih later⟩

/-! ## Writing the whole -/

/-- What holds between two writes: the file is what has left the slice. -/
def PathWrite.Copying (contents : List UInt8) : PathWrite → Prop
  | .writing file slice =>
      file.cursor ≤ contents.length ∧ file.bytes = contents.take file.cursor ∧
        slice = contents.drop file.cursor
  | .returned disk result => result = .ok () → disk = some contents

theorem PathWrite.copying_loop {contents slice : List UInt8} {file : File}
    (within : file.cursor ≤ contents.length) (bytes : file.bytes = contents.take file.cursor)
    (rest : slice = contents.drop file.cursor) : (PathWrite.loop file slice).Copying contents := by
  unfold PathWrite.loop
  by_cases empty : slice.isEmpty
  · rw [if_pos empty]
    intro _
    have all : contents.length ≤ file.cursor := by
      rw [List.isEmpty_iff, rest, List.drop_eq_nil_iff] at empty
      exact empty
    rw [bytes, List.take_of_length_le all]
  · rw [if_neg empty]
    exact ⟨within, bytes, rest⟩

theorem PathWrite.Copying.next {contents : List UInt8} {s : PathWrite}
    (short : contents.length < 2 ^ 63) (copying : s.Copying contents) (env : WriteEnv) :
    (s.next env).Copying contents := by
  cases s with
  | returned disk result => exact copying
  | writing file slice =>
      obtain ⟨within, bytes, rest⟩ := copying
      have spec := writeAt_spec file (toVec slice) file.cursor env
      rcases outcome : file.writeAt (toVec slice) file.cursor env with ⟨result, returned, data⟩
      rw [outcome] at spec
      obtain ⟨-, counted, failed⟩ := spec
      cases result with
      | error err =>
          simp only [PathWrite.next, File.write, outcome]
          exact fun success => by cases success
      | ok n =>
          obtain ⟨rfl, bounded, -⟩ := counted n rfl
          simp only [PathWrite.next, File.write, outcome]
          by_cases nothing : n = 0
          · rw [if_pos nothing]
            exact fun success => by cases success
          · rw [if_neg nothing]
            have held : content (toVec slice) = slice := List.take_length
            have left : n ≤ contents.length - file.cursor := by
              have : bufLen (toVec slice) = contents.length - file.cursor := by
                rw [rest]
                exact List.length_drop
              omega
            have moved : saturatingAddU64 file.cursor n = file.cursor + n :=
              saturatingAddU64_of_le (by unfold OFF_MAX; omega)
            have size : file.bytes.length = file.cursor := by
              rw [bytes, List.length_take]
              omega
            refine copying_loop ?_ ?_ ?_
            · show saturatingAddU64 file.cursor n ≤ contents.length
              omega
            · show pwrite file.bytes file.cursor _ = contents.take (saturatingAddU64 file.cursor n)
              have appended := pwrite_end file.bytes (slice.take n)
              rw [size] at appended
              rw [moved, held, List.take_add, ← rest, ← bytes, appended]
            · show slice.drop n = contents.drop (saturatingAddU64 file.cursor n)
              rw [moved, rest, List.drop_drop]

theorem PathWrite.copying_after {contents : List UInt8} (short : contents.length < 2 ^ 63)
    (disk : Option (List UInt8)) (opening : OpenEnv) (env : Nat → WriteEnv) (k : Nat) :
    (PathWrite.after env (PathWrite.start disk contents opening) k).Copying contents := by
  induction k with
  | zero =>
      show (PathWrite.start disk contents opening).Copying contents
      unfold PathWrite.start
      cases opened : OpenOptions.openFile { write := true, create := true, truncate := true } disk
          opening with
      | error err => exact fun success => by cases success
      | ok file =>
          have fresh : file.bytes = [] ∧ file.cursor = 0 := by
            unfold OpenOptions.openFile at opened
            cases granted : opening.opened with
            | error err => simp [OpenOptions.validate, granted, bind, Except.bind] at opened
            | ok _ =>
                cases disk <;>
                  (simp [OpenOptions.validate, granted, bind, Except.bind, OpenOptions.openBytes, pure,
                    Except.pure, OpenOptions.initialCursorForAppend] at opened
                   simp [← opened])
          refine copying_loop ?_ ?_ ?_ <;> simp [fresh.1, fresh.2]
  | succ k ih => exact ih.next short (env k)

/-! ## Reading the whole -/

/-- A read into the array: both ways ask for its length. -/
theorem read_array (file : File) (buf : ArrayU8 8192) (limit : Nat) :
    file.read buf (.delivers limit) =
      ((.ok (pread file.bytes file.cursor 8192 limit).length,
          store buf (pread file.bytes file.cursor 8192 limit)),
        ⟨file.bytes, file.io, file.offload,
          saturatingAddU64 file.cursor (pread file.bytes file.cursor 8192 limit).length⟩) := by
  obtain ⟨bytes, io, offload, cursor⟩ := file
  have some_ : 1 ≤ bufLen buf := by
    show 1 ≤ 8192
    decide
  have capacity : bufCapacity buf = 8192 := buf.size
  unfold File.read
  cases io with
  | blocking =>
      rw [readAt_blocking some_]
      rfl
  | completion =>
      rw [readAt_completion some_ (by rw [capacity]; decide), capacity]
      rfl

/-- What holds between two reads: the bytes collected are those before the cursor. -/
def PathRead.Collecting (disk : List UInt8) : PathRead → Prop
  | .reading file bytes _ =>
      file.bytes = disk ∧ file.cursor ≤ disk.length ∧ bytes = disk.take file.cursor
  | .returned result => result = .ok disk

theorem PathRead.Collecting.next {disk : List UInt8} {s : PathRead} (short : disk.length < 2 ^ 63)
    (collecting : s.Collecting disk) (limit : Nat) : (s.next (.delivers limit)).Collecting disk := by
  cases s with
  | returned result => exact collecting
  | reading file bytes buf =>
      obtain ⟨rfl, within, same⟩ := collecting
      simp only [PathRead.next, read_array]
      have bounded := pread_length_le file.bytes file.cursor 8192 limit
      by_cases nothing : (pread file.bytes file.cursor 8192 limit).length = 0
      · rw [if_pos nothing]
        have ended := pread_eq_nil (by decide) nothing
        show Except.ok bytes = Except.ok file.bytes
        rw [same, List.take_of_length_le ended]
      · rw [if_neg nothing]
        have reach : file.cursor + (pread file.bytes file.cursor 8192 limit).length ≤
            file.bytes.length := by
          simp only [pread, List.length_take, List.length_drop]
          omega
        have moved := @saturatingAddU64_of_le file.cursor
          (pread file.bytes file.cursor 8192 limit).length (by unfold OFF_MAX; omega)
        refine ⟨rfl, ?_, ?_⟩
        · show saturatingAddU64 _ _ ≤ _
          omega
        · show bytes ++ (overwrite buf.bytes _).take (min 8192 _) =
            file.bytes.take (saturatingAddU64 _ _)
          rw [moved, Nat.min_eq_right bounded, take_overwrite (by rw [buf.size]; exact bounded),
            same, List.take_add]
          congr 1
          simp only [pread, List.length_take]
          rw [List.take_eq_take_iff]
          omega

theorem PathRead.collecting_after {disk : List UInt8} {reopening : OpenEnv}
    (opens : reopening.opened = .ok ()) (short : disk.length < 2 ^ 63) (limits : Nat → Nat) (k : Nat) :
    (PathRead.after (fun k => .delivers (limits k)) (PathRead.start (some disk) reopening) k).Collecting
      disk := by
  induction k with
  | zero =>
      have opened : OpenOptions.openFile { read := true } (some disk) reopening =
          .ok ⟨disk, reopening.io, reopening.offload, 0⟩ := by
        simp [OpenOptions.openFile, OpenOptions.validate, opens, bind, Except.bind,
          OpenOptions.openBytes, pure, Except.pure, OpenOptions.initialCursorForAppend]
      show (PathRead.start (some disk) reopening).Collecting disk
      unfold PathRead.start
      rw [opened]
      exact ⟨rfl, Nat.zero_le _, rfl⟩
  | succ k ih => exact ih.next short (limits k)

/-- A read that does not end the loop moves the cursor. -/
theorem PathRead.cursor_ge {disk : List UInt8} {reopening : OpenEnv}
    (opens : reopening.opened = .ok ()) (short : disk.length < 2 ^ 63) (limits : Nat → Nat) {k : Nat}
    {file : File} {bytes : List UInt8} {buf : ArrayU8 8192}
    (reading : PathRead.after (fun k => .delivers (limits k)) (PathRead.start (some disk) reopening) k =
      .reading file bytes buf) : k ≤ file.cursor := by
  induction k generalizing file bytes buf with
  | zero => exact Nat.zero_le _
  | succ k ih =>
      have collecting := collecting_after opens short limits k
      rw [PathRead.after] at reading
      cases earlier : PathRead.after (fun k => .delivers (limits k))
          (PathRead.start (some disk) reopening) k with
      | returned result =>
          rw [earlier] at reading
          cases reading
      | reading before collected old =>
          rw [earlier] at reading collecting
          have late := ih earlier
          obtain ⟨rfl, within, -⟩ := collecting
          simp only [PathRead.next, read_array] at reading
          split at reading
          · cases reading
          · rename_i some_
            cases reading
            have reach : before.cursor + (pread before.bytes before.cursor 8192 (limits k)).length ≤
                before.bytes.length := by
              simp only [pread, List.length_take, List.length_drop]
              omega
            have moved := @saturatingAddU64_of_le before.cursor
              (pread before.bytes before.cursor 8192 (limits k)).length (by unfold OFF_MAX; omega)
            show k + 1 ≤ saturatingAddU64 _ _
            omega

theorem PathRead.returns {disk : List UInt8} {reopening : OpenEnv} (opens : reopening.opened = .ok ())
    (short : disk.length < 2 ^ 63) (limits : Nat → Nat) :
    PathRead.after (fun k => .delivers (limits k)) (PathRead.start (some disk) reopening)
      (disk.length + 1) = .returned (.ok disk) := by
  have collecting := collecting_after opens short limits (disk.length + 1)
  cases state : PathRead.after (fun k => .delivers (limits k)) (PathRead.start (some disk) reopening)
      (disk.length + 1) with
  | reading file bytes buf =>
      have late := cursor_ge opens short limits state
      rw [state] at collecting
      have := collecting.2.1
      omega
  | returned result =>
      rw [state] at collecting
      rw [show result = .ok disk from collecting]

end Vibeio.Fs
