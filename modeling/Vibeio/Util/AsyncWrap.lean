/-
# Util.AsyncWrap -- the adapter to the traits of tokio

`AsyncWrap` owns an inner object and lends it to at most one operation at a time: the
object sits in `inner`, or in the stored future of a read, a write or a flush that has
not finished.  A read goes through a buffer of 4096 bytes, and what the caller has no
room for stays in `read_buf`.  A write copies its buffer into a future that writes all
of it; later calls only poll that future, whatever buffer they come with.

The inner object is a parameter: each label says what it answers when it is polled, so
every reader and writer is covered.  A write is polled on through as many answers as
the inner writer gives before it blocks, fails, or has taken everything (`writeAll`).

* `Owned`: where the object is, and that the leftover of a read is nobody else's.
* `asyncWrap_reads_in_order`: what is produced is delivered, in order; one field holds
  the object; a call that finds it lent elsewhere changes nothing.
* `asyncWrap_accounts_iff`: when the bytes accepted are the bytes acknowledged.
-/
import Vibeio.Driver.Basic
import Vibeio.Theory.Machine

namespace Vibeio.Util

set_option autoImplicit false

open Vibeio.Theory
open Vibeio.Driver (IoError)

/-- `BUFFER_SIZE`. -/
def bufferSize : Nat := 4096

/-- The buffer an inner read gives back, and how much of it was filled. -/
structure Filled where
  buffer : List UInt8
  n : Nat
  whole : buffer.length = bufferSize
  fits : n ≤ bufferSize

/-- What the inner object answers when an operation of it is polled. -/
inductive Answer (α : Type) where
  | hold
  | done (result : Except IoError α)

inductive WriteAnswer where
  | hold
  | accept (n : Nat)
  | fail (err : IoError)
  deriving DecidableEq, Repr

/-- The future of a write: the rest of its buffer, and what it has counted. -/
structure WriteFut (T : Type) where
  inner : T
  buf : List UInt8
  totalWritten : Nat

/-- The futures of a read and of a flush hold nothing but the object. -/
structure AsyncWrap (T : Type) where
  inner : Option T
  readBuf : Option (List UInt8 × Nat × Nat)
  readFut : Option T
  writeFut : Option (WriteFut T)
  flushFut : Option T

/-- What a call leaves and returns; the bytes it put into the caller's buffer, those the
inner reader produced in it, and those the inner writer accepted. -/
structure Polled (T α : Type) where
  wrap : AsyncWrap T
  result : Poll (Except IoError α)
  delivered : List UInt8
  produced : List UInt8
  accepted : List UInt8

def inProgress : IoError := .custom .other "another operation is already in progress"

/-- A call that is turned away. -/
def Polled.rejected {T α : Type} (w : AsyncWrap T) : Polled T α :=
  ⟨w, .ready (.error inProgress), [], [], []⟩

/-- Where a write stands after a poll. -/
inductive WriteOutcome where
  | waiting (buf : List UInt8) (totalWritten : Nat)
  | finished (result : Except IoError Nat)

/-- The loop of the stored write, through the answers of one poll; with the outcome, what
the inner writer accepted.  `none` where the answers do not fit the loop, or `split_off`
panics. -/
def writeAll (buf : List UInt8) (totalWritten : Nat) :
    List WriteAnswer → Option (WriteOutcome × List UInt8)
  | [] => if buf = [] then some (.finished (.ok totalWritten), []) else none
  | answer :: rest =>
      if buf = [] then none
      else
        match answer with
        | .hold => if rest = [] then some (.waiting buf totalWritten, []) else none
        | .fail err => if rest = [] then some (.finished (.error err), []) else none
        | .accept n =>
            if n ≤ buf.length then
              (writeAll (buf.drop n) (totalWritten + n) rest).map fun run =>
                (run.1, buf.take n ++ run.2)
            else none

namespace AsyncWrap

variable {T : Type}

def new (inner : T) : AsyncWrap T := ⟨some inner, none, none, none, none⟩

/-- The end of `poll_read`: the stored future is polled. -/
def pollReadFut (w : AsyncWrap T) (inner : T) (remaining : Nat) (answer : Answer Filled) : Polled T Unit :=
  match answer with
  | .hold => ⟨w, .pending, [], [], []⟩
  | .done read =>
      let w := { w with readFut := none, inner := some inner }
      match read with
      | .ok filled =>
          let copyLen := min filled.n remaining
          ⟨{ w with readBuf := if copyLen < filled.n then some (filled.buffer, copyLen, filled.n) else w.readBuf },
            .ready (.ok ()), filled.buffer.take copyLen, filled.buffer.take filled.n, []⟩
      | .error err => ⟨w, .ready (.error err), [], [], []⟩

/-- `poll_read` into a buffer with room for `remaining` bytes. -/
def pollRead (w : AsyncWrap T) (remaining : Nat) (answer : Answer Filled) : Polled T Unit :=
  if remaining = 0 then ⟨w, .ready (.ok ()), [], [], []⟩
  else
    match w.readFut with
    | some inner => w.pollReadFut inner remaining answer
    | none =>
        match w.readBuf with
        | some (buffer, advanced, n) =>
            let copyLen := min (n - advanced) remaining
            ⟨{ w with
                readBuf := if advanced + copyLen < n then some (buffer, advanced + copyLen, n) else none },
              .ready (.ok ()), (buffer.drop advanced).take copyLen, [], []⟩
        | none =>
            match w.inner with
            | none => .rejected w
            | some inner => { w with inner := none, readFut := some inner }.pollReadFut inner remaining answer

/-- The end of `poll_write`: the stored future is polled. -/
def pollWriteFut (w : AsyncWrap T) (fut : WriteFut T) (answers : List WriteAnswer) : Option (Polled T Nat) :=
  (writeAll fut.buf fut.totalWritten answers).map fun run =>
    match run.1 with
    | .waiting buf totalWritten =>
        ⟨{ w with writeFut := some { fut with buf, totalWritten } }, .pending, [], [], run.2⟩
    | .finished written =>
        ⟨{ w with writeFut := none, inner := some fut.inner }, .ready written, [], [], run.2⟩

def pollWrite (w : AsyncWrap T) (buf : List UInt8) (answers : List WriteAnswer) : Option (Polled T Nat) :=
  if buf = [] then
    if answers = [] then some ⟨w, .ready (.ok 0), [], [], []⟩ else none
  else
    match w.writeFut with
    | some fut => w.pollWriteFut fut answers
    | none =>
        match w.inner with
        | none => if answers = [] then some (.rejected w) else none
        | some inner => { w with inner := none }.pollWriteFut ⟨inner, buf, 0⟩ answers

/-- The end of `poll_flush`: the stored future is polled. -/
def pollFlushFut (w : AsyncWrap T) (inner : T) (answer : Answer Unit) : Polled T Unit :=
  match answer with
  | .hold => ⟨w, .pending, [], [], []⟩
  | .done flush => ⟨{ w with flushFut := none, inner := some inner }, .ready flush, [], [], []⟩

def pollFlush (w : AsyncWrap T) (answer : Answer Unit) : Polled T Unit :=
  match w.flushFut with
  | some inner => w.pollFlushFut inner answer
  | none =>
      match w.inner with
      | none => .rejected w
      | some inner => { w with inner := none, flushFut := some inner }.pollFlushFut inner answer

def pollShutdown (w : AsyncWrap T) : Polled T Unit := ⟨w, .ready (.ok ()), [], [], []⟩

end AsyncWrap

/-! ## A wrapper and its history -/

/-- A call of `poll_write` that has returned: its buffer, its result, and how many bytes
the inner writer had accepted by then of the write it polled. -/
structure WriteCall where
  buf : List UInt8
  result : Poll (Except IoError Nat)
  taken : Nat

structure Session (T : Type) where
  wrap : AsyncWrap T
  /-- What the inner reader produced, and what the calls of `poll_read` delivered. -/
  produced : List UInt8
  delivered : List UInt8
  /-- What the inner writer accepted, and the `buf[..n]` of the calls that returned
  `Ok(n)`. -/
  accepted : List UInt8
  acknowledged : List UInt8
  lastWrite : Option WriteCall

inductive WrapOp where
  | read (remaining : Nat) (answer : Answer Filled)
  | write (buf : List UInt8) (answers : List WriteAnswer)
  | flush (answer : Answer Unit)
  | shutdown

namespace Session

variable {T : Type}

def new (inner : T) : Session T := ⟨.new inner, [], [], [], [], none⟩

/-- What a result of `poll_write` says has been written of `buf`. -/
def acknowledges (buf : List UInt8) : Poll (Except IoError Nat) → List UInt8
  | .ready (.ok n) => buf.take n
  | _ => []

def afterWrite (s : Session T) (buf : List UInt8) (polled : Polled T Nat) : Session T :=
  { s with
    wrap := polled.wrap
    accepted := s.accepted ++ polled.accepted
    acknowledged := s.acknowledged ++ acknowledges buf polled.result
    lastWrite := some ⟨buf, polled.result,
      (s.wrap.writeFut.elim 0 (·.totalWritten)) + polled.accepted.length⟩ }

def step (s : Session T) : WrapOp → Option (Session T)
  | .read remaining answer =>
      let polled := s.wrap.pollRead remaining answer
      some { s with
        wrap := polled.wrap
        produced := s.produced ++ polled.produced
        delivered := s.delivered ++ polled.delivered }
  | .write buf answers => (s.wrap.pollWrite buf answers).map (s.afterWrite buf)
  | .flush answer => some { s with wrap := (s.wrap.pollFlush answer).wrap }
  | .shutdown => some { s with wrap := s.wrap.pollShutdown.wrap }

end Session

/-- A new wrapper around any object, called in any order. -/
def wrapMachine (T : Type) : Machine (Session T) WrapOp where
  start s := ∃ inner, s = .new inner
  step := Session.step

/-! ## Who holds the object -/

namespace AsyncWrap

variable {T : Type}

/-- How many of the four fields hold the object. -/
def holders (w : AsyncWrap T) : Nat :=
  w.inner.isSome.toNat + w.readFut.isSome.toNat + w.writeFut.isSome.toNat + w.flushFut.isSome.toNat

/-- The unread part of `read_buf`. -/
def unread (w : AsyncWrap T) : List UInt8 :=
  match w.readBuf with
  | none => []
  | some (buffer, advanced, n) => (buffer.drop advanced).take (n - advanced)

/-- One field holds the object, and while a read has it nothing is left of another. -/
structure Owned (w : AsyncWrap T) : Prop where
  one : w.holders = 1
  leftover : w.readFut.isSome = true → w.readBuf = none

theorem new_owned (inner : T) : (new inner).Owned := ⟨rfl, fun lent => by cases lent⟩

/-- The front of what was to be read, and the rest of it. -/
theorem take_append_rest (bytes : List UInt8) {copyLen n : Nat} (within : copyLen ≤ n) :
    bytes.take copyLen ++ (bytes.drop copyLen).take (n - copyLen) = bytes.take n := by
  rw [← List.take_add, Nat.add_sub_cancel' within]

theorem pollReadFut_spec {w : AsyncWrap T} {inner : T} (owned : w.Owned) (lent : w.readFut = some inner)
    (remaining : Nat) (answer : Answer Filled) :
    let polled := w.pollReadFut inner remaining answer
    polled.wrap.Owned ∧ polled.delivered ++ polled.wrap.unread = w.unread ++ polled.produced := by
  have empty : w.readBuf = none := owned.leftover (by simp [lent])
  have alone := owned.one
  simp only [holders, lent, Option.isSome_some, Bool.toNat_true] at alone
  cases answer with
  | hold =>
      simp only [pollReadFut]
      exact ⟨owned, by simp⟩
  | done read =>
      cases read with
      | error err =>
          refine ⟨⟨?_, fun again => by cases again⟩, by simp [pollReadFut, unread]⟩
          simp only [pollReadFut, holders, Option.isSome_some, Option.isSome_none, Bool.toNat_true,
            Bool.toNat_false]
          omega
      | ok filled =>
          refine ⟨⟨?_, fun again => by cases again⟩, ?_⟩
          · simp only [pollReadFut, holders, Option.isSome_some, Option.isSome_none, Bool.toNat_true,
              Bool.toNat_false]
            omega
          · simp only [pollReadFut, unread, empty, List.nil_append]
            split
            · rename_i more
              split at more
              · cases more
              · have all : min filled.n remaining = filled.n := by omega
                rw [all, List.append_nil]
            · rename_i buffer advanced n more
              split at more
              · cases more
                exact take_append_rest _ (Nat.min_le_left _ _)
              · cases more

theorem pollRead_spec {w : AsyncWrap T} (owned : w.Owned) (remaining : Nat) (answer : Answer Filled) :
    let polled := w.pollRead remaining answer
    polled.wrap.Owned ∧ polled.delivered ++ polled.wrap.unread = w.unread ++ polled.produced := by
  have alone := owned.one
  simp only [pollRead]
  split
  · exact ⟨owned, by simp⟩
  · split
    · rename_i inner lent
      exact pollReadFut_spec owned lent remaining answer
    · rename_i idle
      split
      · -- the leftover is served, whoever has the object
        rename_i buffer advanced n left
        refine ⟨⟨alone, fun lent => by simp [idle] at lent⟩, ?_⟩
        simp only [unread, left, List.append_nil]
        split
        · rename_i more
          split at more
          · cases more
          · have all : min (n - advanced) remaining = n - advanced := by omega
            rw [all, List.append_nil]
        · rename_i more
          split at more
          · cases more
            rw [← take_append_rest (buffer.drop advanced) (Nat.min_le_left (n - advanced) remaining),
              List.drop_drop, Nat.sub_sub]
          · cases more
      · rename_i empty
        split
        · exact ⟨owned, by simp [Polled.rejected]⟩
        · rename_i inner free
          have lends : ({ w with inner := none, readFut := some inner } : AsyncWrap T).Owned := by
            refine ⟨?_, fun _ => empty⟩
            simp only [holders, free, idle, Option.isSome_some, Option.isSome_none] at alone ⊢
            omega
          exact pollReadFut_spec lends rfl remaining answer

/-- A write touches neither the leftover of a read nor who may hold the object beside it. -/
theorem pollWriteFut_spec {w : AsyncWrap T} {fut : WriteFut T} {answers : List WriteAnswer} {polled : Polled T Nat}
    (others : w.inner.isSome.toNat + w.readFut.isSome.toNat + w.flushFut.isSome.toNat = 0)
    (ran : w.pollWriteFut fut answers = some polled) :
    polled.wrap.holders = 1 ∧ polled.wrap.readBuf = w.readBuf ∧ polled.wrap.readFut = w.readFut := by
  simp only [pollWriteFut, Option.map_eq_some_iff] at ran
  obtain ⟨⟨outcome, taken⟩, -, rfl⟩ := ran
  cases outcome with
  | waiting buf totalWritten =>
      refine ⟨?_, rfl, rfl⟩
      simp only [holders, Option.isSome_some, Bool.toNat_true]
      omega
  | finished written =>
      refine ⟨?_, rfl, rfl⟩
      simp only [holders, Option.isSome_some, Option.isSome_none, Bool.toNat_true, Bool.toNat_false]
      omega

theorem pollWrite_spec {w : AsyncWrap T} {buf : List UInt8} {answers : List WriteAnswer} {polled : Polled T Nat}
    (owned : w.Owned) (ran : w.pollWrite buf answers = some polled) :
    polled.wrap.Owned ∧ polled.wrap.unread = w.unread := by
  have alone := owned.one
  -- what the lemma on the stored future gives is all that is needed
  have enough : polled.wrap.holders = 1 ∧ polled.wrap.readBuf = w.readBuf ∧ polled.wrap.readFut = w.readFut →
      polled.wrap.Owned ∧ polled.wrap.unread = w.unread := by
    rintro ⟨one, same, reader⟩
    refine ⟨⟨one, fun lent => ?_⟩, by rw [unread, unread, same]⟩
    rw [same]
    exact owned.leftover (by rw [← reader]; exact lent)
  simp only [pollWrite] at ran
  split at ran
  · simp only [Option.ite_none_right_eq_some, Option.some.injEq] at ran
    obtain ⟨-, rfl⟩ := ran
    exact ⟨owned, rfl⟩
  · split at ran
    · rename_i fut lent
      refine enough (pollWriteFut_spec ?_ ran)
      simp only [holders, lent, Option.isSome_some, Bool.toNat_true] at alone
      omega
    · rename_i idle
      split at ran
      · simp only [Option.ite_none_right_eq_some, Option.some.injEq] at ran
        obtain ⟨-, rfl⟩ := ran
        exact ⟨owned, rfl⟩
      · rename_i inner free
        refine enough (pollWriteFut_spec (w := { w with inner := none }) ?_ ran)
        simp only [holders, free, idle, Option.isSome_some, Option.isSome_none, Bool.toNat_true,
          Bool.toNat_false] at alone ⊢
        omega

theorem pollFlush_spec {w : AsyncWrap T} (owned : w.Owned) (answer : Answer Unit) :
    (w.pollFlush answer).wrap.Owned ∧ (w.pollFlush answer).wrap.unread = w.unread := by
  have alone := owned.one
  simp only [pollFlush]
  split
  · rename_i inner lent
    cases answer with
    | hold => exact ⟨owned, rfl⟩
    | done flush =>
        refine ⟨⟨?_, owned.leftover⟩, rfl⟩
        simp only [pollFlushFut, holders, lent, Option.isSome_some, Option.isSome_none, Bool.toNat_true,
          Bool.toNat_false] at alone ⊢
        omega
  · rename_i idle
    split
    · exact ⟨owned, rfl⟩
    · rename_i inner free
      simp only [holders, free, idle, Option.isSome_some, Option.isSome_none, Bool.toNat_true,
        Bool.toNat_false] at alone
      cases answer with
      | hold =>
          refine ⟨⟨?_, owned.leftover⟩, rfl⟩
          simp only [pollFlushFut, holders, Option.isSome_some, Option.isSome_none, Bool.toNat_true,
            Bool.toNat_false]
          omega
      | done flush =>
          refine ⟨⟨?_, owned.leftover⟩, rfl⟩
          simp only [pollFlushFut, holders, Option.isSome_some, Option.isSome_none, Bool.toNat_true,
            Bool.toNat_false]
          omega

/-- The call needs the object and finds it lent to another operation. -/
def Rejects (w : AsyncWrap T) : WrapOp → Prop
  | .read remaining _ => remaining ≠ 0 ∧ w.readFut = none ∧ w.readBuf = none ∧ w.inner = none
  | .write buf _ => buf ≠ [] ∧ w.writeFut = none ∧ w.inner = none
  | .flush _ => w.flushFut = none ∧ w.inner = none
  | .shutdown => False

/-- What a call leaves of the five fields, with the error it returns if it returns one. -/
def call (w : AsyncWrap T) : WrapOp → Option (AsyncWrap T × Option IoError)
  | .read remaining answer => some (outcome (w.pollRead remaining answer))
  | .write buf answers => (w.pollWrite buf answers).map outcome
  | .flush answer => some (outcome (w.pollFlush answer))
  | .shutdown => some (outcome w.pollShutdown)
where
  outcome {α : Type} (polled : Polled T α) : AsyncWrap T × Option IoError :=
    (polled.wrap, match polled.result with
      | .ready (.error err) => some err
      | _ => none)

theorem call_of_rejects {w w' : AsyncWrap T} {op : WrapOp} {err : Option IoError} (rejects : w.Rejects op)
    (called : w.call op = some (w', err)) : w' = w ∧ err = some inProgress := by
  cases op with
  | read remaining answer =>
      obtain ⟨room, idle, empty, lent⟩ := rejects
      simp only [call, pollRead, if_neg room, idle, empty, lent] at called
      cases called
      exact ⟨rfl, rfl⟩
  | write buf answers =>
      obtain ⟨some_, idle, lent⟩ := rejects
      simp only [call, pollWrite, if_neg some_, idle, lent, Option.map_eq_some_iff,
        Option.ite_none_right_eq_some, Option.some.injEq] at called
      obtain ⟨_, ⟨-, rfl⟩, same⟩ := called
      cases same
      exact ⟨rfl, rfl⟩
  | flush answer =>
      obtain ⟨idle, lent⟩ := rejects
      simp only [call, pollFlush, idle, lent] at called
      cases called
      exact ⟨rfl, rfl⟩
  | shutdown => exact rejects.elim

end AsyncWrap

namespace Session

variable {T : Type}

/-- **Reading and ownership.** -/
structure InOrder (s : Session T) : Prop where
  /-- What was delivered, and after it what is left in `read_buf`, is what was produced. -/
  bytes : s.delivered ++ s.wrap.unread = s.produced
  /-- Exactly one of the four fields holds the object. -/
  one : s.wrap.holders = 1
  /-- A call that is turned away leaves all five fields as they are. -/
  rejected : ∀ op w' err, s.wrap.Rejects op → s.wrap.call op = some (w', err) →
    w' = s.wrap ∧ err = some inProgress

theorem step_owned {s s' : Session T} {op : WrapOp}
    (before : s.wrap.Owned ∧ s.delivered ++ s.wrap.unread = s.produced) (stepped : s.step op = some s') :
    s'.wrap.Owned ∧ s'.delivered ++ s'.wrap.unread = s'.produced := by
  obtain ⟨owned, bytes⟩ := before
  cases op with
  | read remaining answer =>
      cases stepped
      obtain ⟨after, moved⟩ := AsyncWrap.pollRead_spec owned remaining answer
      refine ⟨after, ?_⟩
      show s.delivered ++ _ ++ _ = s.produced ++ _
      rw [List.append_assoc, moved, ← List.append_assoc, bytes]
  | write buf answers =>
      simp only [step, Option.map_eq_some_iff] at stepped
      obtain ⟨polled, ran, rfl⟩ := stepped
      obtain ⟨after, same⟩ := AsyncWrap.pollWrite_spec owned ran
      refine ⟨after, ?_⟩
      show s.delivered ++ polled.wrap.unread = s.produced
      rw [same, bytes]
  | flush answer =>
      cases stepped
      obtain ⟨after, same⟩ := AsyncWrap.pollFlush_spec owned answer
      refine ⟨after, ?_⟩
      show s.delivered ++ (s.wrap.pollFlush answer).wrap.unread = s.produced
      rw [same, bytes]
  | shutdown =>
      cases stepped
      exact ⟨owned, bytes⟩

end Session

/-- **`AsyncWrap` reads in order and lends its object once**, for every inner reader and
writer and every interleaving of calls. -/
theorem asyncWrap_reads_in_order {T : Type} {s : Session T} (reachable : (wrapMachine T).Reachable s) :
    s.InOrder := by
  have owned : s.wrap.Owned ∧ s.delivered ++ s.wrap.unread = s.produced := by
    refine Machine.invariant (I := fun s => s.wrap.Owned ∧ s.delivered ++ s.wrap.unread = s.produced)
      (fun s starts => ?_) (fun _ _ _ before stepped => ?_) reachable
    · obtain ⟨inner, rfl⟩ := starts
      exact ⟨AsyncWrap.new_owned inner, rfl⟩
    · exact Session.step_owned before stepped
  exact ⟨owned.2, owned.1.one, fun _ _ _ rejects called => AsyncWrap.call_of_rejects rejects called⟩

/-- A read of five bytes. -/
def Filled.five : Filled where
  buffer := [1, 2, 3, 4, 5] ++ List.replicate 4091 0
  n := 5
  whole := by rw [List.length_append, List.length_replicate]; rfl
  fits := by decide

/-- Five bytes read into room for two; then a write that waits, a flush that is turned
away, and a read of two more bytes from the leftover. -/
theorem asyncWrap_reads_in_order_beside_write :
    ∃ s : Session Unit, (wrapMachine Unit).exec (.new ())
        [.read 2 (.done (.ok .five)), .write [9] [.hold], .flush (.done (.ok ())), .read 2 .hold] = some s ∧
      s.delivered = [1, 2, 3, 4] ∧ s.InOrder :=
  ⟨_, rfl, rfl, asyncWrap_reads_in_order ⟨_, [.read 2 (.done (.ok .five)), .write [9] [.hold],
    .flush (.done (.ok ())), .read 2 .hold], ⟨(), rfl⟩, rfl⟩⟩

/-! ## What is written, and what is said to be -/

/-- All that the answers of one poll can come to: the writer holds the write, it fails it,
or it has taken everything. -/
theorem writeAll_cases {buf : List UInt8} {totalWritten : Nat} {answers : List WriteAnswer}
    {outcome : WriteOutcome} {taken : List UInt8}
    (ran : writeAll buf totalWritten answers = some (outcome, taken)) :
    (∃ rest, outcome = .waiting rest (totalWritten + taken.length) ∧ taken ++ rest = buf ∧
        WriteAnswer.hold ∈ answers) ∨
      (∃ err, outcome = .finished (.error err) ∧ WriteAnswer.fail err ∈ answers) ∨
      (outcome = .finished (.ok (totalWritten + buf.length)) ∧ taken = buf ∧
        ∀ answer ∈ answers, ∃ n, answer = .accept n) := by
  induction answers generalizing buf totalWritten taken with
  | nil =>
      simp only [writeAll, Option.ite_none_right_eq_some, Option.some.injEq, Prod.mk.injEq] at ran
      obtain ⟨rfl, rfl, rfl⟩ := ran
      exact Or.inr (Or.inr ⟨rfl, rfl, by simp⟩)
  | cons answer rest ih =>
      simp only [writeAll, Option.ite_none_left_eq_some] at ran
      obtain ⟨-, ran⟩ := ran
      cases answer with
      | hold =>
          simp only [Option.ite_none_right_eq_some, Option.some.injEq, Prod.mk.injEq] at ran
          obtain ⟨-, rfl, rfl⟩ := ran
          exact Or.inl ⟨buf, rfl, rfl, List.mem_cons_self⟩
      | fail err =>
          simp only [Option.ite_none_right_eq_some, Option.some.injEq, Prod.mk.injEq] at ran
          obtain ⟨-, rfl, rfl⟩ := ran
          exact Or.inr (Or.inl ⟨err, rfl, List.mem_cons_self⟩)
      | accept n =>
          simp only [Option.ite_none_right_eq_some, Option.map_eq_some_iff, Prod.mk.injEq] at ran
          obtain ⟨within, ⟨later, more⟩, onward, rfl, rfl⟩ := ran
          have front : (buf.take n).length = n := List.length_take_of_le within
          rcases ih onward with ⟨left, same, whole, held⟩ | ⟨err, same, failed⟩ | ⟨same, whole, all⟩
          · refine Or.inl ⟨left, ?_, ?_, List.mem_cons_of_mem _ held⟩
            · rw [same, List.length_append, front, Nat.add_assoc]
            · rw [List.append_assoc, whole, List.take_append_drop]
          · exact Or.inr (Or.inl ⟨err, same, List.mem_cons_of_mem _ failed⟩)
          · refine Or.inr (Or.inr ⟨?_, ?_, ?_⟩)
            · rw [same, List.length_drop, show totalWritten + n + (buf.length - n) = totalWritten + buf.length by omega]
            · rw [whole, List.take_append_drop]
            · intro other member
              rcases List.mem_cons.mp member with rfl | tail
              · exact ⟨n, rfl⟩
              · exact all other tail

/-- Nothing was accepted if and only if every accepting answer was for no bytes. -/
theorem writeAll_taken {buf : List UInt8} {totalWritten : Nat} {answers : List WriteAnswer}
    {outcome : WriteOutcome} {taken : List UInt8}
    (ran : writeAll buf totalWritten answers = some (outcome, taken)) :
    taken = [] ↔ ∀ n, WriteAnswer.accept n ∈ answers → n = 0 := by
  induction answers generalizing buf totalWritten taken with
  | nil =>
      simp only [writeAll, Option.ite_none_right_eq_some, Option.some.injEq, Prod.mk.injEq] at ran
      simp [ran.2.2.symm]
  | cons answer rest ih =>
      simp only [writeAll, Option.ite_none_left_eq_some] at ran
      obtain ⟨some_, ran⟩ := ran
      cases answer with
      | hold =>
          simp only [Option.ite_none_right_eq_some, Option.some.injEq, Prod.mk.injEq] at ran
          simp [ran.1, ran.2.2.symm]
      | fail err =>
          simp only [Option.ite_none_right_eq_some, Option.some.injEq, Prod.mk.injEq] at ran
          simp [ran.1, ran.2.2.symm]
      | accept n =>
          simp only [Option.ite_none_right_eq_some, Option.map_eq_some_iff, Prod.mk.injEq] at ran
          obtain ⟨-, ⟨later, more⟩, onward, rfl, rfl⟩ := ran
          simp [ih onward, some_]

namespace AsyncWrap

variable {T : Type}

/-- The three ways through `poll_write`: nothing to write, turned away, or a future polled,
the stored one or a new one of the whole buffer. -/
theorem pollWrite_cases {w : AsyncWrap T} {buf : List UInt8} {answers : List WriteAnswer} {polled : Polled T Nat}
    (ran : w.pollWrite buf answers = some polled) :
    (buf = [] ∧ answers = [] ∧ polled = ⟨w, .ready (.ok 0), [], [], []⟩) ∨
      (w.writeFut = none ∧ answers = [] ∧ polled = .rejected w) ∨
      ∃ fut w', buf ≠ [] ∧ (w.writeFut = some fut ∨ (w.writeFut = none ∧ fut.buf = buf ∧ fut.totalWritten = 0)) ∧
        pollWriteFut w' fut answers = some polled := by
  simp only [pollWrite] at ran
  split at ran
  · rename_i empty
    simp only [Option.ite_none_right_eq_some, Option.some.injEq] at ran
    exact Or.inl ⟨empty, ran.1, ran.2.symm⟩
  · rename_i some_
    split at ran
    · rename_i fut lent
      exact Or.inr (Or.inr ⟨fut, w, some_, Or.inl lent, ran⟩)
    · rename_i idle
      split at ran
      · simp only [Option.ite_none_right_eq_some, Option.some.injEq] at ran
        exact Or.inr (Or.inl ⟨idle, ran.1, ran.2.symm⟩)
      · rename_i inner free
        exact Or.inr (Or.inr ⟨⟨inner, buf, 0⟩, { w with inner := none }, some_,
          Or.inr ⟨idle, rfl, rfl⟩, ran⟩)

theorem pollRead_writeFut (w : AsyncWrap T) (remaining : Nat) (answer : Answer Filled) :
    (w.pollRead remaining answer).wrap.writeFut = w.writeFut := by
  have stored : ∀ (v : AsyncWrap T) (inner : T), (v.pollReadFut inner remaining answer).wrap.writeFut = v.writeFut := by
    intro v inner
    unfold pollReadFut
    split
    · rfl
    · split <;> rfl
  unfold pollRead
  split
  · rfl
  · split
    · exact stored _ _
    · split
      · rfl
      · split
        · rfl
        · exact stored _ _

theorem pollFlush_writeFut (w : AsyncWrap T) (answer : Answer Unit) :
    (w.pollFlush answer).wrap.writeFut = w.writeFut := by
  unfold pollFlush pollFlushFut
  split
  · cases answer <;> rfl
  · split
    · rfl
    · cases answer <;> rfl

end AsyncWrap

namespace Session

variable {T : Type}

/-- **Every byte accounted for.** -/
structure Accounts (s : Session T) : Prop where
  /-- What the inner writer accepted is what the calls returned as written. -/
  same : s.accepted = s.acknowledged
  /-- No call returns more than its buffer holds. -/
  bounded : ∀ call n, s.lastWrite = some call → call.result = .ready (.ok n) → n ≤ call.buf.length
  /-- A call that returns an error has had none of its bytes accepted. -/
  failed : ∀ call err, s.lastWrite = some call → call.result = .ready (.error err) → call.taken = 0

/-- The inner writer leaves a write waiting, or fails it, only before it has accepted a
byte of it; and a call that ends a stored write comes with a buffer that begins with the
stored bytes. -/
def NoneLost (s : Session T) : WrapOp → Prop
  | .write buf answers =>
      ((WriteAnswer.hold ∈ answers ∨ ∃ err, WriteAnswer.fail err ∈ answers) →
        ∀ n, WriteAnswer.accept n ∈ answers → n = 0) ∧
      ∀ fut, s.wrap.writeFut = some fut → buf ≠ [] → (∀ answer ∈ answers, ∃ n, answer = .accept n) →
        fut.buf <+: buf
  | _ => True

/-- Nothing of a stored write has been accepted. -/
structure Good (s : Session T) : Prop where
  accounts : s.Accounts
  untouched : ∀ fut, s.wrap.writeFut = some fut → fut.totalWritten = 0

theorem new_good (inner : T) : (new inner).Good :=
  ⟨⟨rfl, fun call n none => (by cases none), fun call err none => (by cases none)⟩, fun fut none => by cases none⟩

theorem Good.written {s : Session T} (good : s.Good) : s.wrap.writeFut.elim 0 (·.totalWritten) = 0 := by
  cases stored : s.wrap.writeFut with
  | none => rfl
  | some fut => exact good.untouched fut stored

/-- One call accounts for its bytes if it returns what was accepted in it. -/
theorem Good.accounts_afterWrite {s : Session T} (good : s.Good) (buf : List UInt8) (polled : Polled T Nat) :
    (s.afterWrite buf polled).Accounts ↔
      polled.accepted = acknowledges buf polled.result ∧
        (∀ n, polled.result = .ready (.ok n) → n ≤ buf.length) ∧
        ∀ err, polled.result = .ready (.error err) → polled.accepted = [] := by
  have same := good.accounts.same
  have written := good.written
  constructor
  · intro accounts
    have total := accounts.same
    simp only [afterWrite, same, List.append_cancel_left_eq] at total
    refine ⟨total, fun n returned => accounts.bounded _ n rfl returned, fun err returned => ?_⟩
    have none_ := accounts.failed _ err rfl returned
    rw [written, Nat.zero_add] at none_
    exact List.length_eq_zero_iff.mp none_
  · rintro ⟨total, bounded, failed⟩
    refine ⟨?_, ?_, ?_⟩
    · simp only [afterWrite, same, total]
    · rintro call n ⟨⟩ returned
      exact bounded n returned
    · rintro call err ⟨⟩ returned
      rw [written, failed err returned]
      rfl

/-- A call whose write waits or fails: it is accounted for if nothing of it was accepted. -/
theorem Good.write_unfinished {s : Session T} {buf : List UInt8} {answers : List WriteAnswer}
    {polled : Polled T Nat} (good : s.Good)
    (blocked : WriteAnswer.hold ∈ answers ∨ ∃ err, WriteAnswer.fail err ∈ answers)
    (none_ : polled.accepted = [] ↔ ∀ n, WriteAnswer.accept n ∈ answers → n = 0)
    (unfinished : ∀ n, polled.result ≠ .ready (.ok n))
    (untouched : polled.accepted = [] → ∀ fut, polled.wrap.writeFut = some fut → fut.totalWritten = 0) :
    (s.NoneLost (.write buf answers) → (s.afterWrite buf polled).Good) ∧
      ((s.afterWrite buf polled).Accounts → s.NoneLost (.write buf answers)) := by
  have silent : acknowledges buf polled.result = [] := by
    unfold acknowledges
    split
    · rename_i n returned
      exact absurd returned (unfinished n)
    · rfl
  have accounts := good.accounts_afterWrite buf polled
  rw [silent] at accounts
  constructor
  · intro kept
    have nothing := none_.mpr (kept.1 blocked)
    refine ⟨accounts.mpr ⟨nothing, fun n returned => absurd returned (unfinished n), fun _ _ => nothing⟩, ?_⟩
    exact untouched nothing
  · intro accounted
    refine ⟨fun _ => none_.mp (accounts.mp accounted).1, fun _ _ _ all => ?_⟩
    rcases blocked with held | ⟨err, failed⟩
    · obtain ⟨n, wrong⟩ := all _ held
      cases wrong
    · obtain ⟨n, wrong⟩ := all _ failed
      cases wrong

/-- A call that ends the write of `stored`: it is accounted for if its buffer begins with
`stored`. -/
theorem Good.write_finished {s : Session T} {buf stored : List UInt8} {answers : List WriteAnswer}
    {w : AsyncWrap T} (good : s.Good) (some_ : buf ≠ [])
    (source : (∃ fut, s.wrap.writeFut = some fut ∧ fut.buf = stored) ∨ (s.wrap.writeFut = none ∧ stored = buf))
    (all : ∀ answer ∈ answers, ∃ n, answer = .accept n) (idle : w.writeFut = none) :
    (s.NoneLost (.write buf answers) →
        (s.afterWrite buf ⟨w, .ready (.ok stored.length), [], [], stored⟩).Good) ∧
      ((s.afterWrite buf ⟨w, .ready (.ok stored.length), [], [], stored⟩).Accounts →
        s.NoneLost (.write buf answers)) := by
  have accounts := good.accounts_afterWrite buf ⟨w, .ready (.ok stored.length), [], [], stored⟩
  simp only [acknowledges] at accounts
  constructor
  · intro kept
    have begins : stored <+: buf := by
      rcases source with ⟨fut, found, rfl⟩ | ⟨-, rfl⟩
      · exact kept.2 fut found some_ all
      · exact List.prefix_rfl
    refine ⟨accounts.mpr ⟨List.prefix_iff_eq_take.mp begins, ?_, ?_⟩, ?_⟩
    · rintro n ⟨⟩
      exact begins.length_le
    · rintro err ⟨⟩
    · intro fut found
      cases idle.symm.trans found
  · intro accounted
    refine ⟨fun blocked => ?_, fun fut found _ _ => ?_⟩
    · rcases blocked with held | ⟨err, failed⟩
      · obtain ⟨n, wrong⟩ := all _ held
        cases wrong
      · obtain ⟨n, wrong⟩ := all _ failed
        cases wrong
    · rcases source with ⟨other, same, rfl⟩ | ⟨vacant, -⟩
      · cases same.symm.trans found
        exact List.prefix_iff_eq_take.mpr (accounts.mp accounted).1
      · cases vacant.symm.trans found

theorem Good.write {s s' : Session T} {buf : List UInt8} {answers : List WriteAnswer} (good : s.Good)
    (stepped : s.step (.write buf answers) = some s') :
    (s.NoneLost (.write buf answers) → s'.Good) ∧ (s'.Accounts → s.NoneLost (.write buf answers)) := by
  simp only [step, Option.map_eq_some_iff] at stepped
  obtain ⟨polled, ran, rfl⟩ := stepped
  rcases AsyncWrap.pollWrite_cases ran with ⟨rfl, rfl, rfl⟩ | ⟨idle, rfl, rfl⟩ | ⟨fut, w', some_, source, polls⟩
  · -- nothing to write
    refine ⟨fun _ => ⟨(good.accounts_afterWrite _ _).mpr ⟨rfl, ?_, ?_⟩, good.untouched⟩, fun _ => ?_⟩
    · rintro n ⟨⟩
      exact Nat.zero_le _
    · rintro err ⟨⟩
    · exact ⟨by simp, fun _ _ empty => absurd rfl empty⟩
  · -- turned away
    refine ⟨fun _ => ⟨(good.accounts_afterWrite _ _).mpr ⟨rfl, ?_, fun _ _ => rfl⟩, good.untouched⟩, fun _ => ?_⟩
    · rintro n ⟨⟩
    · refine ⟨by simp, fun fut stored => ?_⟩
      cases idle.symm.trans stored
  · -- a write is polled, of which nothing has been accepted before
    have untouched : fut.totalWritten = 0 := by
      rcases source with stored | ⟨-, -, zero⟩
      · exact good.untouched fut stored
      · exact zero
    simp only [AsyncWrap.pollWriteFut, Option.map_eq_some_iff] at polls
    obtain ⟨⟨outcome, taken⟩, wrote, rfl⟩ := polls
    have none_ := writeAll_taken wrote
    rw [untouched] at wrote
    rcases writeAll_cases wrote with ⟨rest, rfl, whole, held⟩ | ⟨err, rfl, failed⟩ | ⟨rfl, rfl, all⟩
    · apply good.write_unfinished (Or.inl held) none_
      · rintro n ⟨⟩
      · rintro nothing stored ⟨⟩
        rw [Nat.zero_add]
        exact List.length_eq_zero_iff.mpr nothing
    · apply good.write_unfinished (Or.inr ⟨err, failed⟩) none_
      · rintro n ⟨⟩
      · rintro nothing stored ⟨⟩
    · rw [Nat.zero_add]
      refine good.write_finished some_ ?_ all rfl
      rcases source with stored | ⟨vacant, fresh, -⟩
      · exact Or.inl ⟨fut, stored, rfl⟩
      · exact Or.inr ⟨vacant, fresh⟩

theorem Good.step {s s' : Session T} {op : WrapOp} (good : s.Good) (kept : s.NoneLost op)
    (stepped : Session.step s op = some s') : s'.Good := by
  cases op with
  | write buf answers => exact (good.write stepped).1 kept
  | read remaining answer =>
      cases stepped
      refine ⟨⟨good.accounts.same, good.accounts.bounded, good.accounts.failed⟩, ?_⟩
      rw [AsyncWrap.pollRead_writeFut]
      exact good.untouched
  | flush answer =>
      cases stepped
      refine ⟨⟨good.accounts.same, good.accounts.bounded, good.accounts.failed⟩, ?_⟩
      rw [AsyncWrap.pollFlush_writeFut]
      exact good.untouched
  | shutdown =>
      cases stepped
      exact good

theorem Good.broken {s s' : Session T} {op : WrapOp} (good : s.Good) (lost : ¬ s.NoneLost op)
    (stepped : Session.step s op = some s') : ¬ s'.Accounts := by
  cases op with
  | write buf answers => exact fun accounts => lost ((good.write stepped).2 accounts)
  | read remaining answer => exact absurd trivial lost
  | flush answer => exact absurd trivial lost
  | shutdown => exact absurd trivial lost

end Session

/-- **When `AsyncWrap` accounts for every byte.**  For every inner writer, every sequence of
calls and all their buffers: after each call the bytes accepted are those the calls have
returned as written, no call has returned more than its buffer, and no call that failed has
had a byte accepted, if and only if in no call a byte is accepted of a write that then waits
or fails, and every call that ends a stored write presents a buffer that begins with it. -/
theorem asyncWrap_accounts_iff {T : Type} {s : Session T} {ops : List WrapOp} (inner : T)
    (ran : (wrapMachine T).exec (.new inner) ops = some s) :
    (wrapMachine T).Throughout Session.Accounts (.new inner) ops ↔
      (wrapMachine T).AllSteps Session.NoneLost (.new inner) ops :=
  Machine.throughout_iff_allSteps (fun _ _ _ good kept stepped => Session.Good.step good kept stepped)
    (fun _ good => good.accounts) (fun _ _ _ good lost stepped => Session.Good.broken good lost stepped)
    (Session.new_good inner) ran

/-- A write held back once and then taken in two parts. -/
theorem asyncWrap_accounts_for_held_write :
    ∃ s, (wrapMachine Unit).exec (.new ()) [.write [1, 2, 3] [.hold], .write [1, 2, 3] [.accept 2, .accept 1]] = some s ∧
      s.acknowledged = [1, 2, 3] ∧
      ((wrapMachine Unit).Throughout Session.Accounts (.new ())
          [.write [1, 2, 3] [.hold], .write [1, 2, 3] [.accept 2, .accept 1]] ↔
        (wrapMachine Unit).AllSteps Session.NoneLost (.new ())
          [.write [1, 2, 3] [.hold], .write [1, 2, 3] [.accept 2, .accept 1]]) :=
  ⟨_, rfl, rfl, asyncWrap_accounts_iff () rfl⟩

/-- A write of three bytes that fails after the first, and one that is held back and then
polled with another buffer: one byte is accepted of a call that failed, and the second
caller is told that its `[7, 8]` was written when `[5, 6]` was. -/
theorem asyncWrap_loses_bytes :
    ∃ s, (wrapMachine Unit).exec (.new ())
        [.write [1, 2, 3] [.accept 1, .fail (.os 32)], .write [5, 6] [.hold], .write [7, 8] [.accept 2]] = some s ∧
      s.accepted = [1, 5, 6] ∧ s.acknowledged = [7, 8] ∧ ¬ s.Accounts := by
  refine ⟨_, rfl, rfl, rfl, fun accounts => ?_⟩
  have same := accounts.same
  exact absurd same (by decide)

end Vibeio.Util
