/-
# Io.Splice -- `splice_exact` and `sendfile_exact` over io_uring

Both move `len` bytes from a source to a sink by repeated splices: `splice_exact`
directly, `sendfile_exact` through a pipe, with one counter for each side of it.  A
phase says at which point of the loop a transfer stands; the events are the answers
of the system, and `run` for the points between two awaits.

The system keeps its side of `splice`: of a request for `r` bytes it moves between 1
and `r` of those the source has, and 0 only if there are none or `r` is 0 (`admits`).
The length of a request is a `u64` in the loop and a `u32` in the submission entry
(`SpliceOp.request`), so a request for a multiple of `2 ^ 32` asks for nothing.

`exact_transfer_iff`: this is the only way a transfer ends early, and no transfer of
`2 ^ 32` bytes or more gets beyond the remainder.
-/
import Vibeio.Driver.Basic
import Vibeio.Theory.Machine

namespace Vibeio.Io

open Vibeio.Theory
open Vibeio.Driver

set_option autoImplicit false

/-! ## One splice -/

/-- `n.min(usize::MAX as u64) as usize`. -/
def clampUsize (n : Nat) : Nat := min n (2 ^ 64 - 1)

/-- The length in the entry `SpliceOp` builds: `self.len as u32`. -/
def SpliceOp.request (len : Nat) : Nat := len % 2 ^ 32

/-- What `SpliceOp` makes of a result. -/
def SpliceOp.finish (result : Int) : Except IoError Nat :=
  if result < 0 then .error (.os (-result).toNat) else .ok result.toNat

/-- What the operation returns when `n` bytes were moved; the result is an `i32`. -/
def SpliceOp.report (n : Nat) : Except IoError Nat := finish (asI32 n)

/-- The system may move `n` bytes when asked for `request` and `available` are there. -/
def admits (request available n : Nat) : Bool :=
  n ≤ request && n ≤ available && (n != 0 || request == 0 || available == 0)

theorem admits_iff {request available n : Nat} : admits request available n = true ↔
    n ≤ request ∧ n ≤ available ∧ (n = 0 → request = 0 ∨ available = 0) := by
  simp only [admits, Bool.and_eq_true, decide_eq_true_eq, Bool.or_eq_true, bne_iff_ne, beq_iff_eq]
  constructor
  · rintro ⟨⟨asked, there⟩, moved⟩
    refine ⟨asked, there, fun nothing => ?_⟩
    omega
  · rintro ⟨asked, there, moved⟩
    refine ⟨⟨asked, there⟩, ?_⟩
    omega

inductive SpliceEvent where
  | run
  | opened (result : Except IoError Unit)
  | spliced (moved : Nat)
  | failed (err : IoError)

/-! ## `splice_exact` -/

inductive SplicePhase where
  | head
  | splicing
  | done (result : Except IoError Nat)

/-- `refused`: bytes were offered to the sink and it took none. -/
structure SpliceExact where
  phase : SplicePhase
  total : Nat
  source : List UInt8
  sink : List UInt8
  refused : Bool

namespace SpliceExact

def start (content : List UInt8) : SpliceExact :=
  { phase := .head, total := 0, source := content, sink := [], refused := false }

def request (len : Nat) (s : SpliceExact) : Nat := SpliceOp.request (clampUsize (len - s.total))

/-- The bytes that moved are with the sink whatever the operation reports. -/
def move (len : Nat) (s : SpliceExact) (n : Nat) : SpliceExact :=
  { s with source := s.source.drop n, sink := s.sink ++ s.source.take n
           refused := s.refused || (n == 0 && s.request len != 0 && s.source != []) }

/-- `report` is what the operation that moved `n` bytes returned. -/
def afterSplice (len : Nat) (s : SpliceExact) (n : Nat) (report : Except IoError Nat) : SpliceExact :=
  let t := s.move len n
  match report with
  | .error err => { t with phase := .done (.error err) }
  | .ok m =>
      if m = 0 then { t with phase := .done (.ok t.total) }
      else { t with phase := .head, total := t.total + m }

def step (len : Nat) (s : SpliceExact) : SpliceEvent → Option SpliceExact
  | .run =>
      match s.phase with
      | .head =>
          if s.total < len then some { s with phase := .splicing }
          else some { s with phase := .done (.ok s.total) }
      | _ => none
  | .spliced n =>
      match s.phase with
      | .splicing =>
          if admits (s.request len) s.source.length n then
            some (s.afterSplice len n (SpliceOp.report n))
          else none
      | _ => none
  | .failed err =>
      match s.phase with
      | .splicing => some { s with phase := .done (.error err) }
      | _ => none
  | .opened _ => none

end SpliceExact

def spliceMachine (len : Nat) (content : List UInt8) : Machine SpliceExact SpliceEvent where
  start s := s = .start content
  step := SpliceExact.step len

/-! ## `sendfile_exact` -/

/-- `half` is between the two splices of a turn. -/
inductive SendfilePhase where
  | opening
  | head
  | filling
  | half
  | emptying
  | done (result : Except IoError Nat)

structure SendfileExact where
  phase : SendfilePhase
  totalFromFile : Nat
  totalToSocket : Nat
  fileEof : Bool
  source : List UInt8
  pipe : List UInt8
  sink : List UInt8
  refused : Bool

namespace SendfileExact

def start (content : List UInt8) : SendfileExact :=
  { phase := .opening, totalFromFile := 0, totalToSocket := 0, fileEof := false
    source := content, pipe := [], sink := [], refused := false }

def spliceFromFileLen (len : Nat) (s : SendfileExact) : Nat := clampUsize (len - s.totalFromFile)

def spliceToSocketLen (s : SendfileExact) : Nat := clampUsize (s.totalFromFile - s.totalToSocket)

def atHead (len : Nat) (s : SendfileExact) : SendfileExact :=
  if (s.totalFromFile < len ∧ s.fileEof = false) ∨ s.totalToSocket < s.totalFromFile then
    if s.fileEof = false ∧ 0 < s.spliceFromFileLen len then { s with phase := .filling }
    else { s with phase := .half }
  else { s with phase := .done (.ok s.totalToSocket) }

def atHalf (s : SendfileExact) : SendfileExact :=
  if 0 < s.spliceToSocketLen then { s with phase := .emptying } else { s with phase := .head }

def afterFill (s : SendfileExact) (n : Nat) (report : Except IoError Nat) : SendfileExact :=
  let t := { s with source := s.source.drop n, pipe := s.pipe ++ s.source.take n }
  match report with
  | .error err => { t with phase := .done (.error err) }
  | .ok m =>
      if m = 0 then { t with phase := .half, fileEof := true }
      else { t with phase := .half, totalFromFile := t.totalFromFile + m }

def afterEmpty (s : SendfileExact) (n : Nat) (report : Except IoError Nat) : SendfileExact :=
  let t := { s with
    pipe := s.pipe.drop n, sink := s.sink ++ s.pipe.take n
    refused := s.refused || (n == 0 && SpliceOp.request s.spliceToSocketLen != 0 && s.pipe != []) }
  match report with
  | .error err => { t with phase := .done (.error err) }
  | .ok m =>
      if m = 0 then { t with phase := .done (.ok t.totalToSocket) }
      else { t with phase := .head, totalToSocket := t.totalToSocket + m }

def step (len : Nat) (s : SendfileExact) : SpliceEvent → Option SendfileExact
  | .opened result =>
      match s.phase, result with
      | .opening, .ok () => some { s with phase := .head }
      | .opening, .error err => some { s with phase := .done (.error err) }
      | _, _ => none
  | .run =>
      match s.phase with
      | .head => some (s.atHead len)
      | .half => some s.atHalf
      | _ => none
  | .spliced n =>
      match s.phase with
      | .filling =>
          if admits (SpliceOp.request (s.spliceFromFileLen len)) s.source.length n then
            some (s.afterFill n (SpliceOp.report n))
          else none
      | .emptying =>
          if admits (SpliceOp.request s.spliceToSocketLen) s.pipe.length n then
            some (s.afterEmpty n (SpliceOp.report n))
          else none
      | _ => none
  | .failed err =>
      match s.phase with
      | .filling => some { s with phase := .done (.error err) }
      | .emptying => some { s with phase := .done (.error err) }
      | _ => none

end SendfileExact

def sendfileMachine (len : Nat) (content : List UInt8) : Machine SendfileExact SpliceEvent where
  start s := s = .start content
  step := SendfileExact.step len

/-! ## What is asked of a transfer -/

inductive ExactCall where
  | splice
  | sendfile
  deriving DecidableEq, Repr

/-- A transfer that has returned `Ok(total)`. -/
structure Transferred where
  total : Nat
  source : List UInt8
  sink : List UInt8
  refused : Bool
  deriving DecidableEq, Repr

def SpliceExact.transferred (s : SpliceExact) : Option Transferred :=
  match s.phase with
  | .done (.ok total) => some ⟨total, s.source, s.sink, s.refused⟩
  | _ => none

def SendfileExact.transferred (s : SendfileExact) : Option Transferred :=
  match s.phase with
  | .done (.ok total) => some ⟨total, s.source, s.sink, s.refused⟩
  | _ => none

/-- What a run of the call returns, if that is `Ok`. -/
def ExactCall.returns (call : ExactCall) (len : Nat) (content : List UInt8) (events : List SpliceEvent) :
    Option Transferred :=
  match call with
  | .splice => ((spliceMachine len content).exec (.start content) events).bind SpliceExact.transferred
  | .sendfile =>
      ((sendfileMachine len content).exec (.start content) events).bind SendfileExact.transferred

/-- No subtraction of the loop takes more than there is. -/
def ExactCall.NoUnderflow (call : ExactCall) (len : Nat) (content : List UInt8)
    (events : List SpliceEvent) : Prop :=
  match call with
  | .splice =>
      (spliceMachine len content).Throughout (fun s => s.total ≤ len) (.start content) events
  | .sendfile =>
      (sendfileMachine len content).Throughout
        (fun s => s.totalFromFile ≤ len ∧ s.totalToSocket ≤ s.totalFromFile) (.start content) events

/-- The sink has the first `total` bytes, and there are fewer than `len` only if the
source has no more or the sink took none. -/
structure Transferred.Exact (t : Transferred) (len : Nat) (content : List UInt8) : Prop where
  bounded : t.total ≤ len
  inOrder : t.sink = content.take t.total ∧ t.source = content.drop t.total
  complete : t.total < len → t.source = [] ∨ t.refused = true

/-! ## Invariants -/

theorem clampUsize_of_lt {n : Nat} (small : n < 2 ^ 64) : clampUsize n = n := by
  simp only [clampUsize]
  omega

theorem SpliceOp.request_lt (len : Nat) : request len < 2 ^ 32 := Nat.mod_lt _ (by decide)

/-- How far a counter gets: a request stays below `2 ^ 32` and below what is missing,
so from the remainder on nothing is asked for. -/
def Slow (len total : Nat) : Prop := len < 2 ^ 32 ∨ total ≤ len % 2 ^ 32

theorem Slow.advance {len total n : Nat} (slow : Slow len total) (bounded : total ≤ len)
    (asked : n ≤ SpliceOp.request (len - total)) : Slow len (total + n) ∧ total + n ≤ len := by
  unfold SpliceOp.request at asked
  unfold Slow at slow ⊢
  have below := Nat.mod_le (len - total) (2 ^ 32)
  obtain small | slow := slow
  · exact ⟨.inl small, by omega⟩
  · exact ⟨.inr (by omega), by omega⟩

/-- A prefix of the source grows by what is moved. -/
theorem take_append_take_drop (content : List UInt8) (total n : Nat) :
    content.take total ++ (content.drop total).take n = content.take (total + n) :=
  (List.take_add ..).symm

/-- What is reported of `n` bytes: an error, or `n`. -/
theorem SpliceOp.report_cases {n : Nat} (small : n < 2 ^ 32) :
    (∃ err, report n = .error err) ∨ report n = .ok n := by
  unfold report finish
  split
  · exact .inl ⟨_, rfl⟩
  · rename_i nonneg
    rw [asI32_of_nonneg small (by omega)]
    exact .inr rfl

structure SpliceInvariant (len : Nat) (content : List UInt8) (s : SpliceExact) : Prop where
  counted : (∀ err, s.phase ≠ .done (.error err)) →
    s.sink = content.take s.total ∧ s.source = content.drop s.total
  bounded : s.total ≤ len
  slow : Slow len s.total
  accepted : s.refused = false
  awaiting : s.phase = .splicing → s.total < len
  returned : ∀ total, s.phase = .done (.ok total) → total = s.total ∧
    (s.total = len ∨ s.source = [] ∨ SpliceOp.request (len - s.total) = 0)

theorem spliceInvariant_start (len : Nat) (content : List UInt8) :
    SpliceInvariant len content (.start content) := by
  constructor <;> simp [SpliceExact.start, Slow]

/-- A splice moves what was asked for or less, and the sink is never offered bytes
without taking one. -/
theorem SpliceInvariant.spliced {len : Nat} {content : List UInt8} {s : SpliceExact} {n : Nat}
    (u64 : len < 2 ^ 64) (inv : SpliceInvariant len content s) (at_ : s.phase = .splicing)
    (admitted : admits (s.request len) s.source.length n = true) :
    SpliceInvariant len content (s.afterSplice len n (SpliceOp.report n)) := by
  obtain ⟨asked, there, none_⟩ := admits_iff.mp admitted
  have missing := inv.awaiting at_
  have request : s.request len = SpliceOp.request (len - s.total) := by
    rw [SpliceExact.request, clampUsize_of_lt (by omega)]
  rw [request] at asked none_
  obtain ⟨sink, source⟩ := inv.counted (by simp [at_])
  have accepted : (s.move len n).refused = false := by
    simp only [SpliceExact.move, inv.accepted, request, Bool.false_or, Bool.and_eq_false_iff,
      beq_eq_false_iff_ne, bne_eq_false_iff_eq]
    by_cases nothing : n = 0
    · obtain zero | empty := none_ nothing
      · exact .inl (.inr zero)
      · exact .inr (List.eq_nil_of_length_eq_zero empty)
    · exact .inl (.inl nothing)
  obtain ⟨err, failed⟩ | reported :=
    SpliceOp.report_cases (Nat.lt_of_le_of_lt asked (SpliceOp.request_lt _))
  · rw [failed]
    exact ⟨by simp [SpliceExact.afterSplice], inv.bounded, inv.slow, accepted,
      by simp [SpliceExact.afterSplice], by simp [SpliceExact.afterSplice]⟩
  · rw [reported]
    by_cases nothing : n = 0
    · subst nothing
      have still : (s.move len 0).source = s.source := by simp [SpliceExact.move]
      simp only [SpliceExact.afterSplice, if_true]
      refine ⟨fun _ => ?_, inv.bounded, inv.slow, accepted, by simp, ?_⟩
      · simpa [SpliceExact.move] using And.intro sink source
      · rintro total same
        cases same
        refine ⟨rfl, .inr ?_⟩
        obtain zero | empty := none_ rfl
        · exact .inr zero
        · exact .inl (still.trans (List.eq_nil_of_length_eq_zero empty))
    · obtain ⟨slow, bounded⟩ := inv.slow.advance inv.bounded asked
      simp only [SpliceExact.afterSplice, nothing, if_false]
      refine ⟨fun _ => ?_, bounded, slow, accepted, by simp, by simp⟩
      simp only [SpliceExact.move, sink, source]
      exact ⟨take_append_take_drop _ _ _, by rw [List.drop_drop]⟩

theorem SpliceInvariant.step {len : Nat} {content : List UInt8} {s t : SpliceExact} {event : SpliceEvent}
    (u64 : len < 2 ^ 64) (inv : SpliceInvariant len content s) (stepped : s.step len event = some t) :
    SpliceInvariant len content t := by
  cases at_ : s.phase with
  | head =>
      cases event with
      | run =>
          simp only [SpliceExact.step, at_] at stepped
          have counted := inv.counted (by simp [at_])
          split at stepped
          · rename_i more
            cases stepped
            exact ⟨fun _ => counted, inv.bounded, inv.slow, inv.accepted, fun _ => more, by simp⟩
          · rename_i all
            cases stepped
            refine ⟨fun _ => counted, inv.bounded, inv.slow, inv.accepted, by simp, ?_⟩
            rintro total same
            cases same
            have bounded := inv.bounded
            exact ⟨rfl, .inl (by show s.total = len; omega)⟩
      | spliced n => simp [SpliceExact.step, at_] at stepped
      | failed err => simp [SpliceExact.step, at_] at stepped
      | opened _ => simp [SpliceExact.step] at stepped
  | splicing =>
      cases event with
      | run => simp [SpliceExact.step, at_] at stepped
      | spliced n =>
          simp only [SpliceExact.step, at_] at stepped
          split at stepped
          · rename_i admitted
            rw [Option.some.injEq] at stepped
            exact stepped ▸ inv.spliced u64 at_ admitted
          · cases stepped
      | failed err =>
          simp only [SpliceExact.step, at_, Option.some.injEq] at stepped
          subst stepped
          exact ⟨by simp, inv.bounded, inv.slow, inv.accepted, by simp, by simp⟩
      | opened _ => simp [SpliceExact.step] at stepped
  | done result => cases event <;> simp [SpliceExact.step, at_] at stepped

structure SendfileInvariant (len : Nat) (content : List UInt8) (s : SendfileExact) : Prop where
  counted : (∀ err, s.phase ≠ .done (.error err)) → s.sink = content.take s.totalToSocket ∧
    s.pipe = (content.drop s.totalToSocket).take (s.totalFromFile - s.totalToSocket) ∧
    s.source = content.drop s.totalFromFile
  within : s.totalFromFile ≤ content.length
  ordered : s.totalToSocket ≤ s.totalFromFile
  bounded : s.totalFromFile ≤ len
  slow : Slow len s.totalFromFile
  accepted : s.refused = false
  filling : s.phase = .filling → s.totalFromFile < len ∧ s.fileEof = false
  emptying : s.phase = .emptying → s.totalToSocket < s.totalFromFile
  ended : s.fileEof = true → s.source = [] ∨ SpliceOp.request (len - s.totalFromFile) = 0
  returned : ∀ total, s.phase = .done (.ok total) → total = s.totalToSocket ∧
    s.totalToSocket = s.totalFromFile ∧ (s.totalFromFile = len ∨ s.fileEof = true)

theorem sendfileInvariant_start (len : Nat) (content : List UInt8) :
    SendfileInvariant len content (.start content) := by
  constructor <;> simp [SendfileExact.start, Slow]

/-- What is in the pipe is less than `2 ^ 32` bytes, so it is asked for as it is. -/
theorem SendfileInvariant.request_eq {len : Nat} {content : List UInt8} {s : SendfileExact}
    (inv : SendfileInvariant len content s) :
    SpliceOp.request s.spliceToSocketLen = s.totalFromFile - s.totalToSocket := by
  have slow := inv.slow
  have bounded := inv.bounded
  unfold Slow at slow
  have below : s.totalFromFile < 2 ^ 32 := by
    have remainder := Nat.mod_lt len (show 2 ^ 32 > 0 by decide)
    omega
  rw [SendfileExact.spliceToSocketLen, clampUsize_of_lt (by omega), SpliceOp.request]
  exact Nat.mod_eq_of_lt (by omega)

/-- A change of phase between two awaits keeps the counters and the bytes. -/
theorem SendfileInvariant.moveTo {len : Nat} {content : List UInt8} {s : SendfileExact}
    (inv : SendfileInvariant len content s) (running : ∀ err, s.phase ≠ .done (.error err))
    {phase : SendfilePhase}
    (filling : phase = .filling → s.totalFromFile < len ∧ s.fileEof = false)
    (emptying : phase = .emptying → s.totalToSocket < s.totalFromFile)
    (returned : ∀ total, phase = .done (.ok total) → total = s.totalToSocket ∧
      s.totalToSocket = s.totalFromFile ∧ (s.totalFromFile = len ∨ s.fileEof = true)) :
    SendfileInvariant len content { s with phase := phase } :=
  ⟨fun _ => inv.counted running, inv.within, inv.ordered, inv.bounded, inv.slow, inv.accepted, filling,
    emptying, inv.ended, returned⟩

theorem SendfileInvariant.failed {len : Nat} {content : List UInt8} {s : SendfileExact}
    (inv : SendfileInvariant len content s) (err : IoError) :
    SendfileInvariant len content { s with phase := .done (.error err) } :=
  ⟨by simp, inv.within, inv.ordered, inv.bounded, inv.slow, inv.accepted, by simp, by simp, inv.ended,
    by simp⟩

theorem SendfileInvariant.atHead {len : Nat} {content : List UInt8} {s : SendfileExact}
    (inv : SendfileInvariant len content s) (at_ : s.phase = .head) :
    SendfileInvariant len content (s.atHead len) := by
  have running : ∀ err, s.phase ≠ .done (.error err) := by simp [at_]
  have ordered := inv.ordered
  have bounded := inv.bounded
  unfold SendfileExact.atHead
  split
  · split
    · rename_i more
      refine inv.moveTo running (fun _ => ⟨?_, more.1⟩) (by simp) (by simp)
      have missing := more.2
      simp only [SendfileExact.spliceFromFileLen, clampUsize] at missing
      omega
    · exact inv.moveTo running (by simp) (by simp) (by simp)
  · rename_i ended
    refine inv.moveTo running (by simp) (by simp) ?_
    rintro total same
    cases same
    refine ⟨rfl, by omega, ?_⟩
    by_cases eof : s.fileEof = true
    · exact .inr eof
    · have reading : s.fileEof = false := by simpa using eof
      exact .inl (by simp only [reading, and_true] at ended; omega)

theorem SendfileInvariant.atHalf {len : Nat} {content : List UInt8} {s : SendfileExact}
    (inv : SendfileInvariant len content s) (at_ : s.phase = .half) :
    SendfileInvariant len content s.atHalf := by
  have running : ∀ err, s.phase ≠ .done (.error err) := by simp [at_]
  unfold SendfileExact.atHalf
  split
  · rename_i some_
    refine inv.moveTo running (by simp) (fun _ => ?_) (by simp)
    simp only [SendfileExact.spliceToSocketLen, clampUsize] at some_
    omega
  · exact inv.moveTo running (by simp) (by simp) (by simp)

/-- The first splice of a turn: the file's next bytes go to the end of the pipe. -/
theorem SendfileInvariant.filled {len : Nat} {content : List UInt8} {s : SendfileExact} {n : Nat}
    (u64 : len < 2 ^ 64) (inv : SendfileInvariant len content s) (at_ : s.phase = .filling)
    (admitted : admits (SpliceOp.request (s.spliceFromFileLen len)) s.source.length n = true) :
    SendfileInvariant len content (s.afterFill n (SpliceOp.report n)) := by
  obtain ⟨missing, reading⟩ := inv.filling at_
  obtain ⟨sink, pipe, source⟩ := inv.counted (by simp [at_])
  obtain ⟨asked, there, none_⟩ := admits_iff.mp admitted
  rw [SendfileExact.spliceFromFileLen, clampUsize_of_lt (by omega)] at asked none_
  have within := inv.within
  have ordered := inv.ordered
  have length : s.source.length = content.length - s.totalFromFile := by rw [source, List.length_drop]
  obtain ⟨err, failed⟩ | reported :=
    SpliceOp.report_cases (Nat.lt_of_le_of_lt asked (SpliceOp.request_lt _))
  · rw [failed]
    exact ⟨by simp [SendfileExact.afterFill], within, ordered, inv.bounded, inv.slow, inv.accepted,
      by simp [SendfileExact.afterFill], by simp [SendfileExact.afterFill],
      by simp [SendfileExact.afterFill, reading], by simp [SendfileExact.afterFill]⟩
  · rw [reported]
    by_cases nothing : n = 0
    · subst nothing
      simp only [SendfileExact.afterFill, if_true, List.drop_zero, List.take_zero, List.append_nil]
      refine ⟨fun _ => ⟨sink, pipe, source⟩, within, ordered, inv.bounded, inv.slow, inv.accepted,
        by simp, by simp, fun _ => ?_, by simp⟩
      obtain zero | empty := none_ rfl
      · exact .inr zero
      · exact .inl (List.eq_nil_of_length_eq_zero empty)
    · obtain ⟨slow, bounded⟩ := inv.slow.advance inv.bounded asked
      simp only [SendfileExact.afterFill, nothing, if_false]
      refine ⟨fun _ => ⟨sink, ?_, ?_⟩, ?_, ?_, bounded, slow, inv.accepted, by simp, by simp,
        by simp [reading], by simp⟩
      · -- the pipe holds what lies between the two counters
        have split : s.totalFromFile + n - s.totalToSocket =
            s.totalFromFile - s.totalToSocket + n := by omega
        have start : s.totalToSocket + (s.totalFromFile - s.totalToSocket) = s.totalFromFile := by omega
        simp only [pipe, source]
        rw [split, List.take_add, List.drop_drop, start]
      · simp only [source, List.drop_drop]
      · show s.totalFromFile + n ≤ content.length
        omega
      · show s.totalToSocket ≤ s.totalFromFile + n
        omega

/-- The second splice of a turn: the sink takes the head of the pipe, at least one
byte of it. -/
theorem SendfileInvariant.emptied {len : Nat} {content : List UInt8} {s : SendfileExact} {n : Nat}
    (inv : SendfileInvariant len content s) (at_ : s.phase = .emptying)
    (admitted : admits (SpliceOp.request s.spliceToSocketLen) s.pipe.length n = true) :
    SendfileInvariant len content (s.afterEmpty n (SpliceOp.report n)) := by
  have held := inv.emptying at_
  obtain ⟨sink, pipe, source⟩ := inv.counted (by simp [at_])
  obtain ⟨asked, there, none_⟩ := admits_iff.mp admitted
  have within := inv.within
  have small := Nat.lt_of_le_of_lt asked (SpliceOp.request_lt _)
  rw [inv.request_eq] at asked none_
  have length : s.pipe.length = s.totalFromFile - s.totalToSocket := by
    rw [pipe, List.length_take, List.length_drop]
    omega
  have positive : n ≠ 0 := by
    intro nothing
    have impossible := none_ nothing
    omega
  obtain ⟨err, failed⟩ | reported := SpliceOp.report_cases small
  · rw [failed]
    exact ⟨by simp [SendfileExact.afterEmpty], within, inv.ordered, inv.bounded, inv.slow,
      by simp [SendfileExact.afterEmpty, inv.accepted, positive], by simp [SendfileExact.afterEmpty],
      by simp [SendfileExact.afterEmpty], inv.ended, by simp [SendfileExact.afterEmpty]⟩
  · rw [reported]
    simp only [SendfileExact.afterEmpty, positive, if_false]
    refine ⟨fun _ => ⟨?_, ?_, source⟩, within, ?_, inv.bounded, inv.slow,
      by simp [inv.accepted, positive], by simp, by simp, inv.ended, by simp⟩
    · simp only [sink, pipe, List.take_take, Nat.min_eq_left asked]
      exact take_append_take_drop _ _ _
    · simp only [pipe, List.drop_take, List.drop_drop, Nat.sub_sub]
    · show s.totalToSocket + n ≤ s.totalFromFile
      omega

theorem SendfileInvariant.step {len : Nat} {content : List UInt8} {s t : SendfileExact}
    {event : SpliceEvent} (u64 : len < 2 ^ 64) (inv : SendfileInvariant len content s)
    (stepped : s.step len event = some t) : SendfileInvariant len content t := by
  cases event with
  | opened result =>
      cases at_ : s.phase with
      | opening =>
          cases result with
          | ok _ =>
              simp only [SendfileExact.step, at_, Option.some.injEq] at stepped
              exact stepped ▸ inv.moveTo (by simp [at_]) (by simp) (by simp) (by simp)
          | error err =>
              simp only [SendfileExact.step, at_, Option.some.injEq] at stepped
              exact stepped ▸ inv.failed err
      | _ => simp [SendfileExact.step, at_] at stepped
  | run =>
      cases at_ : s.phase with
      | head =>
          simp only [SendfileExact.step, at_, Option.some.injEq] at stepped
          exact stepped ▸ inv.atHead at_
      | half =>
          simp only [SendfileExact.step, at_, Option.some.injEq] at stepped
          exact stepped ▸ inv.atHalf at_
      | _ => simp [SendfileExact.step, at_] at stepped
  | spliced n =>
      cases at_ : s.phase with
      | filling =>
          simp only [SendfileExact.step, at_] at stepped
          split at stepped
          · rename_i admitted
            rw [Option.some.injEq] at stepped
            exact stepped ▸ inv.filled u64 at_ admitted
          · cases stepped
      | emptying =>
          simp only [SendfileExact.step, at_] at stepped
          split at stepped
          · rename_i admitted
            rw [Option.some.injEq] at stepped
            exact stepped ▸ inv.emptied at_ admitted
          · cases stepped
      | _ => simp [SendfileExact.step, at_] at stepped
  | failed err =>
      cases at_ : s.phase with
      | filling =>
          simp only [SendfileExact.step, at_, Option.some.injEq] at stepped
          exact stepped ▸ inv.failed err
      | emptying =>
          simp only [SendfileExact.step, at_, Option.some.injEq] at stepped
          exact stepped ▸ inv.failed err
      | _ => simp [SendfileExact.step, at_] at stepped

/-! ## When a transfer is exact -/

/-- What a returned transfer has in common for both calls: the counter has stayed low,
and the source had no more or nothing more was asked for. -/
structure Stopped (len : Nat) (content : List UInt8) (t : Transferred) : Prop where
  bounded : t.total ≤ len
  slow : Slow len t.total
  inOrder : t.sink = content.take t.total ∧ t.source = content.drop t.total
  accepted : t.refused = false
  why : t.total = len ∨ t.source = [] ∨ SpliceOp.request (len - t.total) = 0

theorem spliceInvariant_of_exec {len : Nat} {content : List UInt8} {events : List SpliceEvent}
    {s : SpliceExact} (u64 : len < 2 ^ 64)
    (ran : (spliceMachine len content).exec (.start content) events = some s) :
    SpliceInvariant len content s :=
  Machine.exec_invariant (fun _ _ _ inv stepped => inv.step u64 stepped)
    (spliceInvariant_start len content) ran

theorem sendfileInvariant_of_exec {len : Nat} {content : List UInt8} {events : List SpliceEvent}
    {s : SendfileExact} (u64 : len < 2 ^ 64)
    (ran : (sendfileMachine len content).exec (.start content) events = some s) :
    SendfileInvariant len content s :=
  Machine.exec_invariant (fun _ _ _ inv stepped => inv.step u64 stepped)
    (sendfileInvariant_start len content) ran

theorem SpliceInvariant.stopped {len : Nat} {content : List UInt8} {s : SpliceExact} {t : Transferred}
    (inv : SpliceInvariant len content s) (returned : s.transferred = some t) :
    Stopped len content t := by
  unfold SpliceExact.transferred at returned
  split at returned
  · rename_i total at_
    cases returned
    obtain ⟨rfl, why⟩ := inv.returned total at_
    exact ⟨inv.bounded, inv.slow, inv.counted (by simp [at_]), inv.accepted, why⟩
  · cases returned

theorem SendfileInvariant.stopped {len : Nat} {content : List UInt8} {s : SendfileExact} {t : Transferred}
    (inv : SendfileInvariant len content s) (returned : s.transferred = some t) :
    Stopped len content t := by
  unfold SendfileExact.transferred at returned
  split at returned
  · rename_i total at_
    cases returned
    obtain ⟨rfl, same, why⟩ := inv.returned total at_
    obtain ⟨sink, -, source⟩ := inv.counted (by simp [at_])
    rw [← same] at source
    refine ⟨same ▸ inv.bounded, same ▸ inv.slow, ⟨sink, source⟩, inv.accepted, ?_⟩
    show s.totalToSocket = len ∨ s.source = [] ∨ SpliceOp.request (len - s.totalToSocket) = 0
    rw [same]
    obtain all | eof := why
    · exact .inl all
    · exact .inr (inv.ended eof)
  · cases returned

theorem ExactCall.stopped {call : ExactCall} {len : Nat} {content : List UInt8}
    {events : List SpliceEvent} {t : Transferred} (u64 : len < 2 ^ 64)
    (returned : call.returns len content events = some t) : Stopped len content t := by
  cases call with
  | splice =>
      obtain ⟨s, ran, out⟩ := Option.bind_eq_some_iff.mp returned
      exact (spliceInvariant_of_exec u64 ran).stopped out
  | sendfile =>
      obtain ⟨s, ran, out⟩ := Option.bind_eq_some_iff.mp returned
      exact (sendfileInvariant_of_exec u64 ran).stopped out

theorem ExactCall.noUnderflow (call : ExactCall) {len : Nat} (u64 : len < 2 ^ 64) (content : List UInt8)
    (events : List SpliceEvent) : call.NoUnderflow len content events := by
  have steps {σ : Type} (M : Machine σ SpliceEvent) (s : σ) : M.AllSteps (fun _ _ => True) s events := by
    induction events generalizing s with
    | nil => trivial
    | cons event rest ih => exact ⟨trivial, fun next _ => ih next⟩
  cases call with
  | splice =>
      exact Machine.throughout_of_allSteps (fun _ _ _ inv _ stepped => inv.step u64 stepped)
        (fun _ inv => inv.bounded) (spliceInvariant_start len content) (steps _ _)
  | sendfile =>
      exact Machine.throughout_of_allSteps (fun _ _ _ inv _ stepped => inv.step u64 stepped)
        (fun _ inv => ⟨inv.bounded, inv.ordered⟩) (sendfileInvariant_start len content) (steps _ _)

/-- A transfer that stopped short of `len` with the source at its end is what it
should be; one that stopped because nothing was asked for is not. -/
theorem Stopped.exact_iff {len : Nat} {content : List UInt8} {t : Transferred}
    (stopped : Stopped len content t) :
    t.Exact len content ↔ len < 2 ^ 32 ∨ content.length ≤ len % 2 ^ 32 := by
  have bounded := stopped.bounded
  have slow := stopped.slow
  have why := stopped.why
  have left : t.source.length = content.length - t.total := by
    rw [stopped.inOrder.2, List.length_drop]
  unfold Slow at slow
  unfold SpliceOp.request at why
  constructor
  · intro exact_
    by_cases small : len < 2 ^ 32
    · exact .inl small
    · have short : t.total < len := by omega
      obtain empty | refused := exact_.complete short
      · rw [empty, List.length_nil] at left
        exact .inr (by omega)
      · rw [stopped.accepted] at refused
        cases refused
  · intro condition
    refine ⟨bounded, stopped.inOrder, fun short => .inl ?_⟩
    obtain all | empty | nothingAsked := why
    · omega
    · exact empty
    · -- a multiple of `2 ^ 32` is missing, so the counter is at the remainder
      apply List.eq_nil_of_length_eq_zero
      omega

/-- **When a transfer over io_uring is exact.**  Up to `2 ^ 32 - 1` bytes always; beyond
that only if the source has no more than the remainder, for there the loop ends. -/
theorem exact_transfer_iff (call : ExactCall) (len : Nat) (u64 : len < 2 ^ 64) (content : List UInt8)
    (events : List SpliceEvent) (t : Transferred) (returned : call.returns len content events = some t) :
    (t.Exact len content ∧ call.NoUnderflow len content events) ↔
      len < 2 ^ 32 ∨ content.length ≤ len % 2 ^ 32 := by
  rw [← (call.stopped u64 returned).exact_iff]
  exact and_iff_left (call.noUnderflow u64 content events)

/-- Two bytes of three, each going through the pipe on its own. -/
def twoOfThree : List SpliceEvent :=
  [.opened (.ok ()), .run, .spliced 1, .run, .spliced 1, .run, .spliced 1, .run, .spliced 1, .run]

theorem exact_transfer_two_of_three :
    (Transferred.mk 2 [9] [7, 8] false).Exact 2 [7, 8, 9] ∧
      ExactCall.sendfile.NoUnderflow 2 [7, 8, 9] twoOfThree :=
  (exact_transfer_iff .sendfile 2 (by decide) [7, 8, 9] twoOfThree ⟨2, [9], [7, 8], false⟩
    (by decide +kernel)).mpr (.inl (by decide))

/-- `2 ^ 32` bytes are to be sent from a file of one byte: the first request is for
none, which is taken for the end of the file, and `Ok(0)` is returned. -/
theorem sendfile_stops_at_multiple :
    ∃ events t, ExactCall.sendfile.returns (2 ^ 32) [7] events = some t ∧ ¬ t.Exact (2 ^ 32) [7] := by
  refine ⟨[.opened (.ok ()), .run, .spliced 0, .run, .run], ⟨0, [7], [], false⟩, by decide +kernel, ?_⟩
  intro exact_
  obtain impossible | impossible := exact_.complete (by decide)
  · cases impossible
  · cases impossible

end Vibeio.Io
