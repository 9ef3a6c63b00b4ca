/-
# Fs.Open -- opening over the ring and through `std`

Over a driver that completes, `OpenOptions::open` works out the flags of `openat` itself and
hands them to the ring; otherwise it gives its six options to `std::fs::OpenOptions`, on a
thread of the pool or where it stands.  The two work out their flags by different rules.

* `buildOpenOp` and `std.flags`: the flags, as the two compute them.
* `openat`: what a file system makes of flags.
* `open_agrees_iff`: the exact options, paths and answers for which it does not matter which
  way a file is opened.
* `open_eq_openFile`: over the ring, the flags come down to `openFile`.
-/
import Vibeio.Fs.Paths

namespace Vibeio.Fs

open Vibeio.Driver

set_option autoImplicit false

/-! ## Flags -/

def O_RDONLY : Nat := 0
def O_WRONLY : Nat := 1
def O_RDWR : Nat := 2
def O_ACCMODE : Nat := 3
def O_CREAT : Nat := 0o100
def O_EXCL : Nat := 0o200
def O_TRUNC : Nat := 0o1000
def O_APPEND : Nat := 0o2000
def O_CLOEXEC : Nat := 0o2000000

def has (flags flag : Nat) : Bool := flags &&& flag != 0

namespace OpenOptions

/-- The path, the flags and the mode of an `OpenOp`. -/
def buildOpenOp (o : OpenOptions) (path : List UInt8) : Except IoError (List UInt8 × Nat × Nat) :=
  let writing := o.write || o.append
  let access : Except IoError Nat := match o.read, writing with
    | true, false => .ok O_RDONLY
    | false, true => .ok O_WRONLY
    | true, true => .ok O_RDWR
    | false, false => .error (.custom .invalidInput "must enable read, write, or append access")
  match access with
  | .error err => .error err
  | .ok flags =>
      let flags := if o.append then flags ||| O_APPEND else flags
      let flags := if o.truncate then flags ||| O_TRUNC else flags
      let flags := if o.createNew then flags ||| (O_CREAT ||| O_EXCL)
        else if o.create then flags ||| O_CREAT else flags
      let flags := flags ||| O_CLOEXEC
      if path.contains 0 then .error (.custom .invalidInput "path contains interior NUL byte")
      else .ok (path, flags, 0o666)

end OpenOptions

/-! ## The rules of `std::fs::OpenOptions`, which has the same six options -/

namespace Std

def EINVAL : Nat := 22

def getAccessMode (o : OpenOptions) : Except IoError Nat :=
  match o.read, o.write, o.append with
  | true, false, false => .ok O_RDONLY
  | false, true, false => .ok O_WRONLY
  | true, true, false => .ok O_RDWR
  | false, _, true => .ok (O_WRONLY ||| O_APPEND)
  | true, _, true => .ok (O_RDWR ||| O_APPEND)
  | false, false, false => .error (.os EINVAL)

def getCreationMode (o : OpenOptions) : Except IoError Nat :=
  let refused := match o.write, o.append with
    | true, false => false
    | false, false => o.truncate || o.create || o.createNew
    | _, true => o.truncate && !o.createNew
  if refused then .error (.os EINVAL)
  else
    match o.create, o.truncate, o.createNew with
    | false, false, false => .ok 0
    | true, false, false => .ok O_CREAT
    | false, true, false => .ok O_TRUNC
    | true, true, false => .ok (O_CREAT ||| O_TRUNC)
    | _, _, true => .ok (O_CREAT ||| O_EXCL)

def flags (o : OpenOptions) : Except IoError Nat := do
  let access ← getAccessMode o
  let creation ← getCreationMode o
  return O_CLOEXEC ||| access ||| creation

/-- The path becomes a C string first. -/
def openOp (o : OpenOptions) (path : List UInt8) : Except IoError (List UInt8 × Nat × Nat) :=
  if path.contains 0 then .error (.custom .invalidInput "file name contained an unexpected NUL byte")
  else (flags o).map fun flags => (path, flags, 0o666)

end Std

/-! ## The call -/

/-- An open file, as far as the flags decide it. -/
structure OpenedFile where
  bytes : List UInt8
  access : Nat
  append : Bool
  cloexec : Bool
  deriving DecidableEq, Repr

/-- `disk` is what is at the path; `granted` is what the system says about it apart from
that.  A call that a signal interrupts is made again. -/
def openat (flags : Nat) (disk : Option (List UInt8)) (granted : Except Nat Unit) : Except Nat OpenedFile := do
  granted
  let bytes ← match disk with
    | none => if has flags O_CREAT then .ok [] else .error ENOENT
    | some bytes =>
        if has flags O_CREAT && has flags O_EXCL then .error EEXIST
        else if has flags O_TRUNC then .ok [] else .ok bytes
  return ⟨bytes, flags &&& O_ACCMODE, has flags O_APPEND, has flags O_CLOEXEC⟩

inductive OpenWay where
  | completion
  | pool
  | blocking
  deriving DecidableEq, Repr

/-- `metadata` is the answer to the question for the length; `spawned` tells whether the
pool has run the closure. -/
structure OpenCall where
  path : List UInt8
  disk : Option (List UInt8)
  granted : Except Nat Unit
  metadata : Except IoError Unit
  spawned : Bool

namespace OpenOptions

/-- The system call, and the cursor a `File` starts with: what `open` returns, and the file
the system has opened for it. -/
def enter (o : OpenOptions) (call : OpenCall) (op : List UInt8 × Nat × Nat) :
    Except IoError (OpenedFile × Nat) × Option OpenedFile :=
  match openat op.2.1 call.disk call.granted with
  | .error code => (.error (.os code), none)
  | .ok file =>
      if o.append then (call.metadata.map fun _ => (file, o.initialCursorForAppend file.bytes), some file)
      else (.ok (file, o.initialCursorForAppend file.bytes), some file)

def openBy (o : OpenOptions) (way : OpenWay) (call : OpenCall) :
    Except IoError (OpenedFile × Nat) × Option OpenedFile :=
  match o.validate with
  | .error err => (.error err, none)
  | .ok () =>
      if way = .pool ∧ call.spawned = false then (.error blockingPoolIoError, none)
      else
        match (if way = .completion then o.buildOpenOp call.path else Std.openOp o call.path) with
        | .error err => (.error err, none)
        | .ok op => o.enter call op

/-- The options `std` refuses and the ring does not: a file cannot be opened to append to
and be truncated, unless it is a new one. -/
def AppendsTruncated (o : OpenOptions) : Prop := o.append = true ∧ o.truncate = true ∧ o.createNew = false

/-- The way does not matter: the options are refused before, or the path is fit for a C
string and either `std` takes the options or the system gives the answer that `std` does. -/
def Alike (o : OpenOptions) (call : OpenCall) : Prop :=
  (∃ err, o.validate = .error err) ∨
    (call.path.contains 0 = false ∧ (o.AppendsTruncated → call.granted = .error Std.EINVAL))

end OpenOptions

/-! ## What the flags say -/

/-- The flags that tell in a call.  A file that has to be new has nothing to truncate. -/
structure Asked where
  create : Bool
  exclusive : Bool
  truncate : Bool
  access : Nat
  append : Bool
  cloexec : Bool
  deriving DecidableEq

def asked (flags : Nat) : Asked where
  create := has flags O_CREAT
  exclusive := has flags O_CREAT && has flags O_EXCL
  truncate := has flags O_TRUNC && !(has flags O_CREAT && has flags O_EXCL)
  access := flags &&& O_ACCMODE
  append := has flags O_APPEND
  cloexec := has flags O_CLOEXEC

theorem openat_congr {flags other : Nat} (same : asked flags = asked other) (disk : Option (List UInt8))
    (granted : Except Nat Unit) : openat flags disk granted = openat other disk granted := by
  simp only [asked, Asked.mk.injEq] at same
  obtain ⟨create, exclusive, truncate, access, append, cloexec⟩ := same
  unfold openat
  rw [create, access, append, cloexec]
  cases disk with
  | none => rfl
  | some bytes =>
      rw [create] at exclusive truncate
      cases both : has other O_CREAT && has other O_EXCL with
      | true => simp only [exclusive, both, if_true]
      | false =>
          rw [exclusive, both, Bool.not_false, Bool.and_true, Bool.and_true] at truncate
          simp only [exclusive, both, truncate]

namespace OpenOptions

variable (o : OpenOptions)

/-- What the options ask for. -/
def asks : Asked where
  create := o.create || o.createNew
  exclusive := o.createNew
  truncate := o.truncate && !o.createNew
  access := if o.write || o.append then if o.read then O_RDWR else O_WRONLY else O_RDONLY
  append := o.append
  cloexec := true

theorem buildOpenOp_asks (valid : o.validate = .ok ()) {path : List UInt8} (clean : path.contains 0 = false) :
    ∃ flags, o.buildOpenOp path = .ok (path, flags, 0o666) ∧ asked flags = o.asks := by
  obtain ⟨read, write, append, truncate, create, createNew⟩ := o
  unfold buildOpenOp
  rw [clean]
  revert valid
  cases read <;> cases write <;> cases append <;> cases truncate <;> cases create <;> cases createNew <;>
    intro valid <;> first | exact ⟨_, rfl, rfl⟩ | cases valid

theorem buildOpenOp_nul (valid : o.validate = .ok ()) {path : List UInt8} (dirty : path.contains 0 = true) :
    o.buildOpenOp path = .error (.custom .invalidInput "path contains interior NUL byte") := by
  obtain ⟨read, write, append, truncate, create, createNew⟩ := o
  unfold buildOpenOp
  rw [dirty]
  revert valid
  cases read <;> cases write <;> cases append <;> intro valid <;> first | rfl | cases valid

theorem stdFlags_asks (valid : o.validate = .ok ()) (takes : ¬ o.AppendsTruncated) :
    ∃ flags, Std.flags o = .ok flags ∧ asked flags = o.asks := by
  obtain ⟨read, write, append, truncate, create, createNew⟩ := o
  revert valid takes
  cases read <;> cases write <;> cases append <;> cases truncate <;> cases create <;> cases createNew <;>
    intro valid takes <;>
      first | exact ⟨_, rfl, rfl⟩ | exact absurd ⟨rfl, rfl, rfl⟩ takes | cases valid

theorem stdFlags_refuses (refused : o.AppendsTruncated) : Std.flags o = .error (.os Std.EINVAL) := by
  obtain ⟨read, write, append, truncate, create, createNew⟩ := o
  obtain ⟨rfl, rfl, rfl⟩ := refused
  cases read <;> cases write <;> rfl

theorem enter_congr {call : OpenCall} {path other : List UInt8} {flags same mode : Nat}
    (equal : asked flags = asked same) :
    o.enter call (path, flags, mode) = o.enter call (other, same, mode) := by
  simp only [enter, openat_congr equal]

/-! ## The two ways -/

variable {o} {call : OpenCall}

theorem openBy_refused {err : IoError} (refused : o.validate = .error err) (way : OpenWay) :
    o.openBy way call = (.error err, none) := by
  unfold openBy
  rw [refused]

/-- Over the ring: what the options ask for, at the path. -/
theorem openBy_completion (valid : o.validate = .ok ()) (clean : call.path.contains 0 = false) :
    ∃ flags, o.openBy .completion call = o.enter call (call.path, flags, 0o666) ∧ asked flags = o.asks := by
  obtain ⟨flags, built, equal⟩ := o.buildOpenOp_asks valid clean
  refine ⟨flags, ?_, equal⟩
  unfold openBy
  simp only [valid, reduceCtorEq, false_and, if_false, if_true, built]

theorem openBy_blocking (valid : o.validate = .ok ()) :
    o.openBy .blocking call =
      match Std.openOp o call.path with
      | .error err => (.error err, none)
      | .ok op => o.enter call op := by
  unfold openBy
  simp only [valid, reduceCtorEq, false_and, if_false]

/-- An error of the call is what `open` returns. -/
theorem enter_granted {code : Nat} (refused : call.granted = .error code) (op : List UInt8 × Nat × Nat) :
    o.enter call op = (.error (.os code), none) := by
  simp [enter, openat, refused, bind, Except.bind]

theorem openat_error {flags code : Nat} {disk : Option (List UInt8)} {granted : Except Nat Unit}
    (refused : openat flags disk granted = .error code) :
    granted = .error code ∨ (disk = none ∧ code = ENOENT) ∨ (asked flags).exclusive = true := by
  cases granted with
  | error other =>
      cases refused
      exact .inl rfl
  | ok _ =>
      cases disk with
      | none =>
          simp only [openat, bind, Except.bind] at refused
          cases create : has flags O_CREAT with
          | true =>
              rw [create] at refused
              cases refused
          | false =>
              rw [create] at refused
              cases refused
              exact .inr (.inl ⟨rfl, rfl⟩)
      | some bytes =>
          simp only [openat, bind, Except.bind] at refused
          cases exclusive : has flags O_CREAT && has flags O_EXCL with
          | true => exact .inr (.inr exclusive)
          | false =>
              rw [exclusive] at refused
              cases truncate : has flags O_TRUNC <;> rw [truncate] at refused <;> cases refused

theorem openat_ok {flags : Nat} {disk : Option (List UInt8)} {granted : Except Nat Unit} {file : OpenedFile}
    (opened : openat flags disk granted = .ok file) :
    file.access = (asked flags).access ∧ file.append = (asked flags).append ∧
      file.cloexec = (asked flags).cloexec := by
  cases granted with
  | error code => cases opened
  | ok _ =>
      cases disk with
      | none =>
          simp only [openat, bind, Except.bind] at opened
          cases create : has flags O_CREAT <;> rw [create] at opened <;> cases opened
          exact ⟨rfl, rfl, rfl⟩
      | some bytes =>
          simp only [openat, bind, Except.bind] at opened
          cases exclusive : has flags O_CREAT && has flags O_EXCL with
          | true =>
              rw [exclusive] at opened
              cases opened
          | false =>
              rw [exclusive] at opened
              cases truncate : has flags O_TRUNC <;> rw [truncate] at opened <;> cases opened <;>
                exact ⟨rfl, rfl, rfl⟩

/-- Without an open file the call itself has failed. -/
theorem enter_none {op : List UInt8 × Nat × Nat} {result : Except IoError (OpenedFile × Nat)}
    (entered : o.enter call op = (result, none)) :
    ∃ code, openat op.2.1 call.disk call.granted = .error code ∧ result = .error (.os code) := by
  unfold enter at entered
  cases called : openat op.2.1 call.disk call.granted with
  | error code =>
      rw [called] at entered
      cases entered
      exact ⟨code, rfl, rfl⟩
  | ok file =>
      rw [called] at entered
      simp only at entered
      split at entered <;> cases entered

/-- The ring opens a file that is to be truncated and appended to, unless the system refuses. -/
theorem enter_refused {op : List UInt8 × Nat × Nat} (truncates : o.AppendsTruncated)
    (equal : asked op.2.1 = o.asks) (same : o.enter call op = (.error (.os Std.EINVAL), none)) :
    call.granted = .error Std.EINVAL := by
  obtain ⟨code, refused, result⟩ := enter_none same
  cases result
  obtain granted | ⟨-, missing⟩ | exclusive := openat_error refused
  · exact granted
  · cases missing
  · rw [equal, asks, truncates.2.2] at exclusive
    cases exclusive

theorem openBy_agrees (valid : o.validate = .ok ()) :
    o.openBy .completion call = o.openBy .blocking call ↔
      call.path.contains 0 = false ∧ (o.AppendsTruncated → call.granted = .error Std.EINVAL) := by
  cases nul : call.path.contains 0 with
  | true =>
      have ring : o.openBy .completion call =
          (.error (.custom .invalidInput "path contains interior NUL byte"), none) := by
        unfold openBy
        simp only [valid, reduceCtorEq, false_and, if_false, if_true, o.buildOpenOp_nul valid nul]
      rw [ring, openBy_blocking valid, Std.openOp, nul]
      simp
  | false =>
      obtain ⟨flags, ring, equal⟩ := openBy_completion valid nul
      rw [ring, openBy_blocking valid, Std.openOp, nul]
      simp only [Bool.false_eq_true, if_false, true_and]
      by_cases truncates : o.AppendsTruncated
      · simp only [o.stdFlags_refuses truncates, Except.map, truncates, true_imp_iff]
        exact ⟨enter_refused truncates equal, fun refused => enter_granted refused _⟩
      · obtain ⟨other, std, asks⟩ := o.stdFlags_asks valid truncates
        simp only [std, Except.map, truncates, false_imp_iff, iff_true]
        exact o.enter_congr (equal.trans asks.symm)

/-- A file that is opened, whichever way, is as the options ask. -/
theorem enter_opened {op : List UInt8 × Nat × Nat} {file : OpenedFile} (equal : asked op.2.1 = o.asks)
    (opened : (o.enter call op).2 = some file) :
    file.access = o.asks.access ∧ file.append = o.append ∧ file.cloexec = true := by
  have called : openat op.2.1 call.disk call.granted = .ok file := by
    unfold enter at opened
    split at opened
    · cases opened
    · rename_i called
      rw [called]
      split at opened <;> cases opened <;> rfl
  have decided := openat_ok called
  rw [equal] at decided
  exact decided

theorem openBy_opened {way : OpenWay} {file : OpenedFile} (opened : (o.openBy way call).2 = some file) :
    file.access = o.asks.access ∧ file.append = o.append ∧ file.cloexec = true := by
  cases valid : o.validate with
  | error err =>
      rw [openBy_refused valid] at opened
      cases opened
  | ok _ =>
      unfold openBy at opened
      rw [valid] at opened
      simp only at opened
      split at opened
      · cases opened
      · split at opened
        · cases opened
        · rename_i op prepared
          refine enter_opened ?_ opened
          split at prepared
          · cases nul : call.path.contains 0 with
            | true =>
                rw [o.buildOpenOp_nul valid nul] at prepared
                cases prepared
            | false =>
                obtain ⟨flags, built, equal⟩ := o.buildOpenOp_asks valid nul
                cases built.symm.trans prepared
                exact equal
          · unfold Std.openOp at prepared
            split at prepared
            · cases prepared
            · by_cases truncates : o.AppendsTruncated
              · rw [o.stdFlags_refuses truncates] at prepared
                cases prepared
              · obtain ⟨flags, std, equal⟩ := o.stdFlags_asks valid truncates
                rw [std] at prepared
                cases prepared
                exact equal

/-- **When it does not matter how a file is opened.**  For all options, paths and answers of
the system: `open` over the ring returns and opens what `open` through `std` does, if and
only if the options are refused before either, or the path has no zero byte and the options
do not ask to append to a truncated old file (or the system refuses them with the error `std`
has for that).  On the pool `open` does what it does where it stands, and a file that is
opened, any way, has the access asked for, appends if asked to, and is closed on `exec`. -/
theorem open_agrees_iff (o : OpenOptions) (call : OpenCall) :
    (o.openBy .completion call = o.openBy .blocking call ↔ o.Alike call) ∧
      o.openBy .pool { call with spawned := true } = o.openBy .blocking call ∧
      ∀ way file, (o.openBy way call).2 = some file →
        file.access = o.asks.access ∧ file.append = o.append ∧ file.cloexec = true := by
  refine ⟨?_, ?_, fun way file opened => openBy_opened opened⟩
  · cases valid : o.validate with
    | error err => simp [openBy_refused valid, Alike, valid]
    | ok _ =>
        rw [openBy_agrees valid]
        simp [Alike, valid]
  · unfold openBy
    cases o.validate with
    | error err => rfl
    | ok _ => simp [enter]

/-- Options to append to a log that is emptied first: the ring does it, `std` refuses. -/
example :
    let o : OpenOptions := { append := true, truncate := true }
    let call : OpenCall := ⟨[108, 111, 103], some [1, 2], .ok (), .ok (), true⟩
    (o.openBy .completion call).2 = some ⟨[], O_WRONLY, true, true⟩ ∧
      o.openBy .blocking call = (.error (.os Std.EINVAL), none) := ⟨rfl, rfl⟩

/-! ## The model of `openFile` -/

def toFile (io : FileIo) (offload : Bool) (opened : OpenedFile × Nat) : File :=
  ⟨opened.1.bytes, io, offload, opened.2⟩

/-- Over the ring, the flags come down to what `openFile` says of the options. -/
theorem open_eq_openFile (clean : call.path.contains 0 = false) (known : call.metadata = .ok ())
    (io : FileIo) (offload : Bool) :
    (o.openBy .completion call).1.map (toFile io offload) =
      o.openFile call.disk ⟨call.granted.mapError .os, io, offload⟩ := by
  cases valid : o.validate with
  | error err =>
      rw [openBy_refused valid]
      simp [openFile, valid, bind, Except.bind, Except.map]
  | ok _ =>
      obtain ⟨flags, ring, equal⟩ := openBy_completion valid clean
      rw [ring]
      simp only [asked, asks, Asked.mk.injEq] at equal
      obtain ⟨create, exclusive, truncate, -, -, -⟩ := equal
      rw [create] at exclusive truncate
      rw [exclusive] at truncate
      simp only [openFile, valid, bind, Except.bind, enter, openat, known, create, exclusive, openBytes]
      cases call.granted with
      | error code => rfl
      | ok _ =>
          cases call.disk with
          | none =>
              cases creates : o.create || o.createNew <;> cases appends : o.append <;>
                simp [Except.mapError, Except.map, toFile, initialCursorForAppend, appends, pure, Except.pure]
          | some bytes =>
              cases new : o.createNew with
              | true => rfl
              | false =>
                  simp only [new, Bool.not_false, Bool.and_true] at truncate
                  cases truncates : o.truncate <;> cases appends : o.append <;>
                    simp [Except.mapError, Except.map, toFile, initialCursorForAppend, appends, truncate,
                      truncates, pure, Except.pure]

end OpenOptions

end Vibeio.Fs
