/-
# Io.Copy -- `io::copy`

`copy` reads into a buffer of 8192 bytes, writes all that was read, and starts
over until a read of 0; then it flushes.  `CopyState` says at which of its awaits
it stands, with its variables; a `CopyEvent` is what the awaited call of the reader
or the writer returned.  The contract of the two is the guard of a step: a read of
`n` bytes returns a buffer of length `n`, a write accepts no more than it is given.

`CopyRun` adds what the reader has handed over (`source`) and what the writer has
accepted (`sink`).  The invariant `CopyInvariant` says, at each await, which part of
the source the sink has.
-/
import Vibeio.Driver.Basic
import Vibeio.Io.Buf
import Vibeio.Theory.Machine

namespace Vibeio.Io

open Vibeio.Theory
open Vibeio.Driver
open IoBuf IoBufMut

set_option autoImplicit false

inductive CopyState where
  | reading (buffer : VecU8) (copied : Nat)
  | writing (cursorBuf : IoBufWithCursor VecU8) (read copied : Nat)
  | flushing (copied : Nat)
  | done (result : Except IoError Nat)

/-- What an awaited call returned. -/
inductive CopyEvent where
  | read (result : Except IoError Nat) (buf : VecU8)
  | write (result : Except IoError Nat)
  | flush (result : Except IoError Unit)

def writeZero : IoError := .custom .writeZero "failed to write whole buffer"

namespace CopyState

def start : CopyState := .reading (VecU8.zeroed 8192).clear 0

/-- The head of the inner loop, and what follows the loop. -/
def writeAll (cursorBuf : IoBufWithCursor VecU8) (read copied : Nat) : CopyState :=
  if 0 < bufLen cursorBuf then .writing cursorBuf read copied
  else .reading (setBufInit cursorBuf.intoInner 0) (saturatingAddU64 copied read)

def afterRead (copied : Nat) (result : Except IoError Nat) (buf : VecU8) : CopyState :=
  match result with
  | .error err => .done (.error err)
  | .ok read => if read = 0 then .flushing copied else writeAll (.new buf) read copied

def afterWrite (cursorBuf : IoBufWithCursor VecU8) (read copied : Nat) (result : Except IoError Nat) :
    CopyState :=
  match result with
  | .error err => .done (.error err)
  | .ok w => if w = 0 then .done (.error writeZero) else writeAll (cursorBuf.advance w) read copied

def afterFlush (copied : Nat) : Except IoError Unit → CopyState
  | .error err => .done (.error err)
  | .ok () => .done (.ok copied)

/-- What a reader promises: the buffer it returns has the length it reports. -/
def readKept (buf : VecU8) : Except IoError Nat → Bool
  | .ok n => bufLen buf = n
  | .error _ => true

/-- What a writer promises: it accepts no more than it was given. -/
def writeKept (cursorBuf : IoBufWithCursor VecU8) : Except IoError Nat → Bool
  | .ok w => w ≤ bufLen cursorBuf
  | .error _ => true

def step : CopyState → CopyEvent → Option CopyState
  | .reading _ copied, .read result buf =>
      if readKept buf result then some (afterRead copied result buf) else none
  | .writing cursorBuf read copied, .write result =>
      if writeKept cursorBuf result then some (afterWrite cursorBuf read copied result) else none
  | .flushing copied, .flush result => some (afterFlush copied result)
  | _, _ => none

end CopyState

/-- The error a call of the reader or the writer makes of the whole copy. -/
def CopyEvent.failure : CopyEvent → Option IoError
  | .read (.error err) _ => some err
  | .read (.ok _) _ => none
  | .write (.error err) => some err
  | .write (.ok w) => if w = 0 then some writeZero else none
  | .flush (.error err) => some err
  | .flush (.ok ()) => none

/-- A copy with its history: the bytes read, the bytes accepted, whether a read of
0 was seen and whether the writer was flushed. -/
structure CopyRun where
  state : CopyState
  source : List UInt8
  sink : List UInt8
  ended : Bool
  flushed : Bool

namespace CopyRun

def start : CopyRun :=
  { state := .start, source := [], sink := [], ended := false, flushed := false }

/-- What an event adds to the history. -/
def record (s : CopyRun) (next : CopyState) : CopyEvent → CopyRun
  | .read (.ok n) buf => { s with
      state := next, source := s.source ++ content buf, ended := s.ended || n == 0 }
  | .write (.ok w) => { s with
      state := next
      sink := s.sink ++ match s.state with
        | .writing cursorBuf _ _ => (content cursorBuf).take w
        | _ => [] }
  | .flush (.ok ()) => { s with state := next, flushed := true }
  | _ => { s with state := next }

def step (s : CopyRun) (event : CopyEvent) : Option CopyRun :=
  (s.state.step event).map fun next => s.record next event

end CopyRun

/-- `copy` over any reader and writer that keep their contract. -/
def copyMachine : Machine CopyRun CopyEvent where
  start s := s = .start
  step := CopyRun.step

/-! ## What one step can do -/

inductive CopyStep (s : CopyRun) : CopyEvent → CopyRun → Prop where
  | readFailed {buffer : VecU8} {copied : Nat} (err : IoError) (buf : VecU8)
      (at_ : s.state = .reading buffer copied) :
      CopyStep s (.read (.error err) buf) { s with state := .done (.error err) }
  | readEnd {buffer : VecU8} {copied : Nat} (buf : VecU8) (at_ : s.state = .reading buffer copied) :
      CopyStep s (.read (.ok 0) buf) { s with state := .flushing copied, ended := true }
  | readSome {buffer : VecU8} {copied : Nat} (buf : VecU8) (at_ : s.state = .reading buffer copied)
      (some_ : 0 < bufLen buf) :
      CopyStep s (.read (.ok (bufLen buf)) buf) { s with
        state := .writing (.new buf) (bufLen buf) copied, source := s.source ++ content buf }
  | writeFailed {c : IoBufWithCursor VecU8} {read copied : Nat} (err : IoError)
      (at_ : s.state = .writing c read copied) :
      CopyStep s (.write (.error err)) { s with state := .done (.error err) }
  | writeNone {c : IoBufWithCursor VecU8} {read copied : Nat} (at_ : s.state = .writing c read copied) :
      CopyStep s (.write (.ok 0)) { s with state := .done (.error writeZero) }
  | writeSome {c : IoBufWithCursor VecU8} {read copied : Nat} (w : Nat)
      (at_ : s.state = .writing c read copied) (some_ : 0 < w) (bounded : w ≤ bufLen c) :
      CopyStep s (.write (.ok w)) { s with
        state := .writeAll (c.advance w) read copied, sink := s.sink ++ (content c).take w }
  | flushFailed {copied : Nat} (err : IoError) (at_ : s.state = .flushing copied) :
      CopyStep s (.flush (.error err)) { s with state := .done (.error err) }
  | flushed {copied : Nat} (at_ : s.state = .flushing copied) :
      CopyStep s (.flush (.ok ())) { s with state := .done (.ok copied), flushed := true }

theorem CopyRun.step_read {s t : CopyRun} {buffer buf : VecU8} {copied : Nat}
    {result : Except IoError Nat} (at_ : s.state = .reading buffer copied)
    (stepped : s.step (.read result buf) = some t) : CopyStep s (.read result buf) t := by
  obtain ⟨next, moved, rfl⟩ := Option.map_eq_some_iff.mp stepped
  simp only [at_, CopyState.step] at moved
  split at moved
  · rename_i kept
    cases moved
    cases result with
    | error err => exact .readFailed err buf at_
    | ok n =>
        have same : bufLen buf = n := by simpa [CopyState.readKept] using kept
        subst same
        by_cases nothing : bufLen buf = 0
        · have empty : content buf = [] := by simp [content, nothing]
          simp only [CopyState.afterRead, CopyRun.record, nothing, empty, if_true, List.append_nil,
            beq_self_eq_true, Bool.or_true]
          exact .readEnd buf at_
        · have more : 0 < bufLen (IoBufWithCursor.new buf) := Nat.pos_of_ne_zero nothing
          simp only [CopyState.afterRead, CopyRun.record, nothing, if_false, CopyState.writeAll, more,
            if_true, beq_eq_false_iff_ne.mpr nothing, Bool.or_false]
          exact .readSome buf at_ (Nat.pos_of_ne_zero nothing)
  · cases moved

theorem CopyRun.step_write {s t : CopyRun} {c : IoBufWithCursor VecU8} {read copied : Nat}
    {result : Except IoError Nat} (at_ : s.state = .writing c read copied)
    (stepped : s.step (.write result) = some t) : CopyStep s (.write result) t := by
  obtain ⟨next, moved, rfl⟩ := Option.map_eq_some_iff.mp stepped
  simp only [at_, CopyState.step] at moved
  split at moved
  · rename_i kept
    cases moved
    cases result with
    | error err => exact .writeFailed err at_
    | ok w =>
        have bounded : w ≤ bufLen c := by simpa [CopyState.writeKept] using kept
        by_cases nothing : w = 0
        · subst nothing
          simp only [CopyState.afterWrite, CopyRun.record, at_, if_true, List.take_zero, List.append_nil]
          exact .writeNone at_
        · simp only [CopyState.afterWrite, CopyRun.record, at_, nothing, if_false]
          exact .writeSome w at_ (Nat.pos_of_ne_zero nothing) bounded
  · cases moved

/-- Everything an event can do to a copy. -/
theorem CopyRun.step_cases {s t : CopyRun} {event : CopyEvent} (stepped : s.step event = some t) :
    CopyStep s event t := by
  cases at_ : s.state with
  | reading buffer copied =>
      cases event with
      | read result buf => exact step_read at_ stepped
      | write _ => simp [CopyRun.step, at_, CopyState.step] at stepped
      | flush _ => simp [CopyRun.step, at_, CopyState.step] at stepped
  | writing c read copied =>
      cases event with
      | read _ _ => simp [CopyRun.step, at_, CopyState.step] at stepped
      | write result => exact step_write at_ stepped
      | flush _ => simp [CopyRun.step, at_, CopyState.step] at stepped
  | flushing copied =>
      cases event with
      | read _ _ => simp [CopyRun.step, at_, CopyState.step] at stepped
      | write _ => simp [CopyRun.step, at_, CopyState.step] at stepped
      | flush result =>
          simp only [CopyRun.step, at_, CopyState.step, Option.map_some, Option.some.injEq] at stepped
          subst stepped
          cases result with
          | error err => exact .flushFailed err at_
          | ok _ => exact .flushed at_
  | done _ => cases event <;> simp [CopyRun.step, at_, CopyState.step] at stepped

/-! ## The invariant -/

/-- Which part of the source the sink has, at each await. -/
structure CopyInvariant (s : CopyRun) : Prop where
  reading : ∀ buffer copied, s.state = .reading buffer copied →
    s.sink = s.source ∧ copied = min s.source.length (2 ^ 64 - 1)
  writing : ∀ c read copied, s.state = .writing c read copied →
    c.Within ∧ 0 < bufLen c ∧ s.source = s.sink ++ content c ∧
      ∃ before, copied = min before (2 ^ 64 - 1) ∧ s.sink.length = before + c.cursor ∧
        read = bufLen c.buf
  flushing : ∀ copied, s.state = .flushing copied →
    s.sink = s.source ∧ copied = min s.source.length (2 ^ 64 - 1) ∧ s.ended = true
  returned : ∀ total, s.state = .done (.ok total) →
    s.sink = s.source ∧ total = min s.source.length (2 ^ 64 - 1) ∧ s.ended = true ∧ s.flushed = true
  failed : ∀ err, s.state = .done (.error err) → s.sink <+: s.source

theorem copyInvariant_start : CopyInvariant .start := by
  constructor <;> simp [CopyRun.start, CopyState.start]

theorem CopyInvariant.isPrefix {s : CopyRun} (inv : CopyInvariant s) : s.sink <+: s.source := by
  cases at_ : s.state with
  | reading buffer copied => exact (inv.reading _ _ at_).1 ▸ List.prefix_refl _
  | writing c read copied =>
      obtain ⟨-, -, split, -⟩ := inv.writing _ _ _ at_
      exact split ▸ List.prefix_append _ _
  | flushing copied => exact (inv.flushing _ at_).1 ▸ List.prefix_refl _
  | done result =>
      cases result with
      | ok total => exact (inv.returned _ at_).1 ▸ List.prefix_refl _
      | error err => exact inv.failed _ at_

/-- A copy that ends in an error keeps what it has. -/
theorem CopyInvariant.fail {s : CopyRun} (inv : CopyInvariant s) (err : IoError) :
    CopyInvariant { s with state := .done (.error err) } := by
  constructor <;> simp [inv.isPrefix]

theorem IoBufWithCursor.Within.advance {c : IoBufWithCursor VecU8} {w : Nat} (within : c.Within)
    (bounded : w ≤ bufLen c) : (c.advance w).Within := by
  have room := within.len
  have fits : bufLen c.buf ≤ bufCapacity c.buf := c.buf.fits
  rw [IoBufWithCursor.bufLen_eq] at bounded
  constructor
  · simp only [IoBufWithCursor.advance]
    omega
  · simp only [IoBufWithCursor.advance]
    omega

theorem length_content_cursor (c : IoBufWithCursor VecU8) : (content c).length = bufLen c := by
  rw [IoBufWithCursor.content_eq, List.length_drop, VecU8.length_content, IoBufWithCursor.bufLen_eq]
  rfl

/-- A partial write moves the accepted bytes from the buffer to the sink. -/
theorem CopyInvariant.writeSome {s : CopyRun} {c : IoBufWithCursor VecU8} {read copied w : Nat}
    (inv : CopyInvariant s) (at_ : s.state = .writing c read copied) (bounded : w ≤ bufLen c) :
    CopyInvariant { s with
      state := .writeAll (c.advance w) read copied, sink := s.sink ++ (content c).take w } := by
  obtain ⟨within, -, split, before, counted, cursor, whole⟩ := inv.writing _ _ _ at_
  have rest : content (c.advance w) = (content c).drop w := by
    rw [IoBufWithCursor.content_eq, IoBufWithCursor.content_eq, List.drop_drop]
    rfl
  have advanced : (s.sink ++ (content c).take w).length = before + (c.advance w).cursor := by
    rw [List.length_append, List.length_take, length_content_cursor, Nat.min_eq_left bounded, cursor]
    simp only [IoBufWithCursor.advance]
    omega
  have source : s.source = s.sink ++ (content c).take w ++ content (c.advance w) := by
    rw [split, rest, List.append_assoc, List.take_append_drop]
  have within' := within.advance bounded
  by_cases more : 0 < bufLen (c.advance w)
  · simp only [CopyState.writeAll, more, if_true]
    refine ⟨by simp, ?_, by simp, by simp, by simp⟩
    rintro c' read' copied' same
    cases same
    exact ⟨within', more, source, before, counted, advanced, whole⟩
  · -- the inner loop is over: everything read has been accepted
    simp only [CopyState.writeAll, more, if_false]
    have done : content (c.advance w) = [] := by
      apply List.eq_nil_of_length_eq_zero
      rw [length_content_cursor]
      omega
    have all : s.sink ++ (content c).take w = s.source := by rw [source, done, List.append_nil]
    have end_ : (c.advance w).cursor = bufLen c.buf := by
      have reached := within'.len
      rw [IoBufWithCursor.bufLen_eq] at more
      simp only [IoBufWithCursor.advance] at more reached ⊢
      omega
    refine ⟨?_, by simp, by simp, by simp, by simp⟩
    rintro buffer copied' same
    cases same
    refine ⟨all, ?_⟩
    rw [← all, advanced, end_, ← whole, saturatingAddU64, counted]
    omega

theorem CopyInvariant.step {s t : CopyRun} {event : CopyEvent} (inv : CopyInvariant s)
    (stepped : s.step event = some t) : CopyInvariant t := by
  cases CopyRun.step_cases stepped with
  | readFailed err buf at_ => exact inv.fail err
  | readEnd buf at_ =>
      obtain ⟨all, counted⟩ := inv.reading _ _ at_
      constructor <;> simp [all, counted]
  | readSome buf at_ some_ =>
      obtain ⟨all, counted⟩ := inv.reading _ _ at_
      refine ⟨by simp, ?_, by simp, by simp, by simp⟩
      rintro c read copied same
      cases same
      refine ⟨⟨Nat.zero_le _, Nat.zero_le _⟩, some_, ?_, s.source.length, counted, by simp [all, IoBufWithCursor.new], rfl⟩
      rw [IoBufWithCursor.content_eq, all]
      rfl
  | writeFailed err at_ => exact inv.fail err
  | writeNone at_ => exact inv.fail writeZero
  | writeSome w at_ some_ bounded => exact inv.writeSome at_ bounded
  | flushFailed err at_ => exact inv.fail err
  | flushed at_ =>
      obtain ⟨all, counted, ended⟩ := inv.flushing _ at_
      constructor <;> simp [all, counted, ended]

theorem copyInvariant_of_reachable {s : CopyRun} (reachable : copyMachine.Reachable s) :
    CopyInvariant s :=
  Machine.invariant (M := copyMachine) (fun _ starts => starts ▸ copyInvariant_start)
    (fun _ _ _ inv stepped => inv.step stepped) reachable

/-! ## What `copy` guarantees -/

/-- What is asked of a copy in each state of a run; `count` is what it returns for
so many bytes. -/
structure CopyCorrect (count : Nat → Nat) (s : CopyRun) : Prop where
  isPrefix : s.sink <+: s.source
  returned : ∀ total, s.state = .done (.ok total) →
    s.ended = true ∧ s.flushed = true ∧ s.sink = s.source ∧ total = count s.source.length
  failed : ∀ event t, s.step event = some t →
    ∀ err, t.state = .done (.error err) ↔ event.failure = some err
  cursor : ∀ c read copied, s.state = .writing c read copied → c.Within ∧ 0 < bufLen c

theorem CopyState.writeAll_ne_done (c : IoBufWithCursor VecU8) (read copied : Nat)
    (result : Except IoError Nat) : CopyState.writeAll c read copied ≠ .done result := by
  unfold CopyState.writeAll
  split <;> simp

/-- A copy ends in an error exactly when an event is one, or is a write of 0. -/
theorem CopyRun.step_failure {s t : CopyRun} {event : CopyEvent} (stepped : s.step event = some t)
    (err : IoError) : t.state = .done (.error err) ↔ event.failure = some err := by
  cases CopyRun.step_cases stepped with
  | readFailed err' buf at_ => simp [CopyEvent.failure]
  | readEnd buf at_ => simp [CopyEvent.failure]
  | readSome buf at_ some_ => simp [CopyEvent.failure]
  | writeFailed err' at_ => simp [CopyEvent.failure]
  | writeNone at_ => simp [CopyEvent.failure]
  | writeSome w at_ some_ bounded =>
      have positive : w ≠ 0 := by omega
      simp [CopyEvent.failure, positive, CopyState.writeAll_ne_done]
  | flushFailed err' at_ => simp [CopyEvent.failure]
  | flushed at_ => simp [CopyEvent.failure]

/-- **`copy` hands over what it reads**, whatever the sizes of the reads and the
writes: in order, nothing twice, and all of it by the time it returns.  The count
it returns stops at the largest `u64`. -/
theorem copy_correct {s : CopyRun} (reachable : copyMachine.Reachable s) :
    CopyCorrect (fun n => min n (2 ^ 64 - 1)) s := by
  have inv := copyInvariant_of_reachable reachable
  refine ⟨inv.isPrefix, ?_, fun event t stepped err => CopyRun.step_failure stepped err, ?_⟩
  · intro total at_
    obtain ⟨all, counted, ended, flushed⟩ := inv.returned total at_
    exact ⟨ended, flushed, all, counted⟩
  · intro c read copied at_
    obtain ⟨within, more, -⟩ := inv.writing c read copied at_
    exact ⟨within, more⟩

/-! ## Whole runs -/

/-- One turn of the outer loop: a read into `b`, and a write that takes all of it. -/
def copyRound (b : VecU8) : List CopyEvent := [.read (.ok b.len) b, .write (.ok b.len)]

theorem exec_copyRound {b buffer : VecU8} {copied : Nat} {source : List UInt8} (some_ : 0 < b.len) :
    copyMachine.exec ⟨.reading buffer copied, source, source, false, false⟩ (copyRound b) =
      some ⟨.reading (setBufInit b 0) (saturatingAddU64 copied b.len), source ++ content b,
        source ++ content b, false, false⟩ := by
  have positive : b.len ≠ 0 := by omega
  have all : (content (IoBufWithCursor.new b)).take b.len = content b := by
    rw [IoBufWithCursor.content_eq]
    simp [IoBufWithCursor.new, content, List.take_take]
  have fresh : bufLen (IoBufWithCursor.new b) = b.len := rfl
  have through : ¬ 0 < bufLen ((IoBufWithCursor.new b).advance b.len) := by
    rw [IoBufWithCursor.bufLen_eq]
    simp [IoBufWithCursor.new, IoBufWithCursor.advance]
  have read : CopyState.afterRead copied (.ok b.len) b = .writing (.new b) b.len copied := by
    simp only [CopyState.afterRead, positive, if_false, CopyState.writeAll, fresh, some_, if_true]
  have written : CopyState.afterWrite (.new b) b.len copied (.ok b.len) =
      .reading (setBufInit b 0) (saturatingAddU64 copied b.len) := by
    simp only [CopyState.afterWrite, positive, if_false, CopyState.writeAll, through]
    rfl
  simp [copyMachine, Machine.exec, copyRound, CopyRun.step, CopyState.step, CopyState.readKept,
    CopyState.writeKept, CopyRun.record, read, written, fresh, positive, all]

/-- Any number of turns with one buffer. -/
theorem exec_copyRounds {b : VecU8} (some_ : 0 < b.len) (n : Nat) :
    copyMachine.exec ⟨.reading (setBufInit b 0) 0, [], [], false, false⟩
        (List.replicate n (copyRound b)).flatten =
      some ⟨.reading (setBufInit b 0) (min (n * b.len) (2 ^ 64 - 1)),
        (List.replicate n (content b)).flatten, (List.replicate n (content b)).flatten, false, false⟩ := by
  induction n with
  | zero => simp
  | succ n ih =>
      rw [List.replicate_succ', List.flatten_append, List.replicate_succ', List.flatten_append]
      apply (copyMachine.exec_append).mpr
      refine ⟨_, ih, ?_⟩
      have counted : saturatingAddU64 (min (n * b.len) (2 ^ 64 - 1)) b.len =
          min ((n + 1) * b.len) (2 ^ 64 - 1) := by
        rw [saturatingAddU64, Nat.succ_mul]
        omega
      simp only [List.flatten_singleton]
      rw [exec_copyRound some_, counted]

/-- The end of a copy: a read of 0, and a flush. -/
def copyEnd (b : VecU8) : List CopyEvent := [.read (.ok 0) (setBufInit b 0), .flush (.ok ())]

theorem exec_copyEnd {b buffer : VecU8} {copied : Nat} {source : List UInt8} :
    copyMachine.exec ⟨.reading buffer copied, source, source, false, false⟩ (copyEnd b) =
      some ⟨.done (.ok copied), source, source, true, true⟩ := by
  have empty : (setBufInit b 0).len = 0 := by rw [VecU8.setBufInit_eq (Nat.zero_le _)]
  simp [copyMachine, Machine.exec, copyEnd, CopyRun.step, CopyState.step, CopyState.readKept,
    CopyState.afterRead, CopyRun.record, CopyState.afterFlush, empty, content]

theorem reachable_copied {b : VecU8} (some_ : 0 < b.len)
    (cleared : setBufInit b 0 = (VecU8.zeroed 8192).clear) (n : Nat) : copyMachine.Reachable
      ⟨.done (.ok (min (n * b.len) (2 ^ 64 - 1))), (List.replicate n (content b)).flatten,
        (List.replicate n (content b)).flatten, true, true⟩ := by
  refine ⟨.start, (List.replicate n (copyRound b)).flatten ++ copyEnd b, rfl, ?_⟩
  apply (copyMachine.exec_append).mpr
  have first := exec_copyRounds some_ n
  rw [cleared] at first
  exact ⟨_, first, exec_copyEnd⟩

theorem setBufInit_zeroed : setBufInit (VecU8.zeroed 8192) 0 = (VecU8.zeroed 8192).clear :=
  VecU8.setBufInit_eq (Nat.zero_le _)

/-- Two buffers' worth of zeros are copied. -/
theorem copy_correct_two_rounds :
    CopyCorrect (fun n => min n (2 ^ 64 - 1))
      ⟨.done (.ok (min (2 * 8192) (2 ^ 64 - 1))), (List.replicate 2 (content (VecU8.zeroed 8192))).flatten,
        (List.replicate 2 (content (VecU8.zeroed 8192))).flatten, true, true⟩ :=
  copy_correct (reachable_copied (b := VecU8.zeroed 8192) (Nat.succ_pos _) setBufInit_zeroed 2)

/-- After `2 ^ 51` full reads `2 ^ 64` bytes have been copied, and `copy` returns one
less. -/
theorem copy_count_saturates :
    ¬ ∀ s, copyMachine.Reachable s → CopyCorrect id s := by
  intro exact_
  have some_ : 0 < (VecU8.zeroed 8192).len := Nat.succ_pos _
  have correct := exact_ _ (reachable_copied some_ setBufInit_zeroed (2 ^ 51))
  obtain ⟨-, -, -, counted⟩ := correct.returned _ rfl
  have size : (List.replicate (2 ^ 51) (content (VecU8.zeroed 8192))).flatten.length = 2 ^ 51 * 8192 := by
    rw [List.length_flatten, List.map_replicate, List.sum_replicate_nat, VecU8.length_content]
    rfl
  have returned : (VecU8.zeroed 8192).len = 8192 := rfl
  rw [size, returned, id] at counted
  omega

end Vibeio.Io
