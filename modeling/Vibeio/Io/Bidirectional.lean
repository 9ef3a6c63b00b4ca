/-
# Io.Bidirectional -- `copy_bidirectional`

Two copies over two objects that are split into halves.  The halves of an object
share it through an async mutex, and a half keeps the guard for the whole of a call:
`read` holds the lock of the source until the read is ready, `write` and `flush` that
of the destination.

* `Bidirectional` is where each of the two copies stands and who holds which lock.
* A `poll` runs one of the two copies until it has to wait: for a lock, for the call
  it makes under one, or for nothing more.  Its answers are what the objects return.
  The other label is a change of an object's mind about accepting a write.
* `Standstill`: a direction has bytes, their destination would accept them, and it
  waits for the lock because the other direction's read is pending under it.

`standstill_free_iff`: a run is free of that exactly if no poll gives a direction
bytes (or a pending read) in the wrong place.
-/
import Mathlib.Logic.Function.Basic
import Vibeio.Io.Copy

namespace Vibeio.Io

open Vibeio.Theory
open Vibeio.Driver
open IoBuf IoBufMut

set_option autoImplicit false

/-- The two directions: `f1` copies from `a` to `b`, `f2` from `b` to `a`. -/
inductive Direction where
  | f1
  | f2
  deriving DecidableEq, Repr

inductive Object where
  | a
  | b
  deriving DecidableEq, Repr

namespace Direction

def other : Direction → Direction
  | f1 => f2
  | f2 => f1

def source : Direction → Object
  | f1 => .a
  | f2 => .b

def dest : Direction → Object
  | f1 => .b
  | f2 => .a

@[simp] theorem other_other (d : Direction) : d.other.other = d := by cases d <;> rfl

@[simp] theorem other_ne (d : Direction) : d.other ≠ d := by cases d <;> simp [other]

@[simp] theorem ne_other (d : Direction) : d ≠ d.other := by cases d <;> simp [other]

@[simp] theorem source_other (d : Direction) : d.other.source = d.dest := by cases d <;> rfl

@[simp] theorem dest_other (d : Direction) : d.other.dest = d.source := by cases d <;> rfl

@[simp] theorem source_ne_dest (d : Direction) : d.source ≠ d.dest := by cases d <;> simp [source, dest]

@[simp] theorem dest_ne_source (d : Direction) : d.dest ≠ d.source := by cases d <;> simp [source, dest]

end Direction

/-- The call of a half. -/
inductive Call where
  | read
  | write
  | flush
  deriving DecidableEq, Repr

/-- What the inner object answers when a call is polled under the lock. -/
inductive Answer where
  | pending (call : Call)
  | ready (event : CopyEvent)

/-- The call a copy is in. -/
def CopyState.call : CopyState → Option Call
  | .reading _ _ => some .read
  | .writing _ _ _ => some .write
  | .flushing _ => some .flush
  | .done _ => none

/-- The object whose lock a call takes. -/
def Call.object (d : Direction) : Call → Object
  | .read => d.source
  | .write => d.dest
  | .flush => d.dest

structure Bidirectional where
  copy : Direction → CopyState
  holder : Object → Option Direction
  writable : Object → Bool

namespace Bidirectional

def start (writable : Object → Bool) : Bidirectional :=
  { copy := fun _ => .start, holder := fun _ => none, writable := writable }

/-- The lock a direction's call is made under. -/
def object (s : Bidirectional) (d : Direction) : Option Object := (s.copy d).call.map (·.object d)

/-- `inner.lock()`: the guard if nobody else has it. -/
def lock (s : Bidirectional) (d : Direction) : Option Bidirectional :=
  (s.object d).bind fun o =>
    if s.holder o = some d.other then none
    else some { s with holder := Function.update s.holder o (some d) }

/-- A call has returned: the guard is dropped and the copy goes on. -/
def resume (s : Bidirectional) (d : Direction) (next : CopyState) : Bidirectional :=
  { s with
    copy := Function.update s.copy d next
    holder := match s.object d with
      | some o => Function.update s.holder o none
      | none => s.holder }

/-- A poll comes back without having called anything: the copy is over, or the lock
it needs is taken. -/
def resting (s : Bidirectional) (d : Direction) : Bool :=
  match s.object d with
  | none => true
  | some o => s.holder o = some d.other

/-- An object that would accept a write does not leave one pending. -/
def answered (s : Bidirectional) (d : Direction) (call : Call) : Bool :=
  (s.copy d).call = some call && (call != .write || !s.writable d.dest)

def poll (d : Direction) : List Answer → Bidirectional → Option Bidirectional
  | [], s => if s.resting d then some s else none
  | .pending call :: rest, s =>
      (s.lock d).bind fun s => if rest.isEmpty && s.answered d call then some s else none
  | .ready event :: rest, s =>
      (s.lock d).bind fun s =>
        ((s.copy d).step event).bind fun next => poll d rest (s.resume d next)

/-- What `copy_bidirectional` returns when both copies are over. -/
def result (s : Bidirectional) : Option (Except IoError (Nat × Nat)) :=
  match s.copy .f1, s.copy .f2 with
  | .done (.ok n1), .done (.ok n2) => some (.ok (n1, n2))
  | .done (.error err), .done _ => some (.error err)
  | .done (.ok _), .done (.error err) => some (.error err)
  | _, _ => none

end Bidirectional

inductive BidirectionalStep where
  | poll (d : Direction) (answers : List Answer)
  | writable (o : Object) (accepts : Bool)

def Bidirectional.step (s : Bidirectional) : BidirectionalStep → Option Bidirectional
  | .poll d answers => s.poll d answers
  | .writable o accepts => some { s with writable := Function.update s.writable o accepts }

def bidirectionalMachine : Machine Bidirectional BidirectionalStep where
  start s := ∃ writable, s = .start writable
  step := Bidirectional.step

/-! ## What is to hold -/

/-- A direction has bytes to write. -/
def Bidirectional.HasBytes (s : Bidirectional) (d : Direction) : Prop :=
  ∃ c read copied, s.copy d = .writing c read copied ∧ 0 < bufLen c

/-- It has bytes and its destination would accept them, but the other direction's
pending read has the lock. -/
structure Standstill (s : Bidirectional) (d : Direction) : Prop where
  bytes : s.HasBytes d
  accepts : s.writable d.dest = true
  held : s.holder d.dest = some d.other
  reads : (s.copy d.other).call = some .read

def StandstillFree (s : Bidirectional) : Prop := ∀ d, ¬ Standstill s d

/-- A read that returned bytes. -/
def Answer.givesBytes : Answer → Prop
  | .ready (.read (.ok n) _) => 0 < n
  | _ => False

/-- A direction is not given bytes while the other's read is pending on the object
they are for, leaves no read pending on an object the other has bytes for, and an
object does not begin to accept writes when the two have come to that. -/
def KeepsApart (s : Bidirectional) : BidirectionalStep → Prop
  | .poll d answers =>
      (s.writable d.dest = true → s.holder d.dest = some d.other →
        ∀ answer ∈ answers, ¬ answer.givesBytes) ∧
      (s.writable d.source = true → s.HasBytes d.other → s.holder d.source ≠ some d.other →
        .pending .read ∉ answers)
  | .writable o accepts =>
      ∀ d, d.dest = o → s.HasBytes d → s.holder o = some d.other → accepts = false

/-! ## One poll -/

/-- A held lock is the one of its holder's call, and who is to write has bytes. -/
structure BidirectionalInvariant (s : Bidirectional) : Prop where
  owner : ∀ o d, s.holder o = some d → s.object d = some o
  bytes : ∀ d c read copied, s.copy d = .writing c read copied → 0 < bufLen c

theorem CopyState.writeAll_bytes {c c' : IoBufWithCursor VecU8} {read copied read' copied' : Nat}
    (writes : CopyState.writeAll c read copied = .writing c' read' copied') : 0 < bufLen c' := by
  unfold CopyState.writeAll at writes
  split at writes
  · rename_i more
    cases writes
    exact more
  · cases writes

theorem CopyState.step_bytes {st : CopyState} {event : CopyEvent} {c : IoBufWithCursor VecU8}
    {read copied : Nat} (stepped : st.step event = some (.writing c read copied)) : 0 < bufLen c := by
  unfold CopyState.step at stepped
  split at stepped
  · rename_i result buf
    split at stepped
    · cases result with
      | error err => simp [CopyState.afterRead] at stepped
      | ok n =>
          simp only [CopyState.afterRead, Option.some.injEq] at stepped
          split at stepped
          · cases stepped
          · exact CopyState.writeAll_bytes stepped
    · cases stepped
  · rename_i result
    split at stepped
    · cases result with
      | error err => simp [CopyState.afterWrite] at stepped
      | ok w =>
          simp only [CopyState.afterWrite, Option.some.injEq] at stepped
          split at stepped
          · cases stepped
          · exact CopyState.writeAll_bytes stepped
    · cases stepped
  · rename_i result
    cases result <;> simp [CopyState.afterFlush] at stepped
  · cases stepped

/-- A read leads to bytes to write exactly if it returned some. -/
theorem CopyState.read_bytes_iff {st next : CopyState} {event : CopyEvent}
    (reads : st.call = some .read) (stepped : st.step event = some next) :
    (∃ c read copied, next = .writing c read copied) ↔ (Answer.ready event).givesBytes := by
  cases st with
  | reading buffer copied =>
      cases event with
      | read result buf =>
          simp only [CopyState.step] at stepped
          split at stepped
          · rename_i kept
            rw [Option.some.injEq] at stepped
            cases result with
            | error err => simp [← stepped, CopyState.afterRead, Answer.givesBytes]
            | ok n =>
                have same : bufLen buf = n := by simpa [CopyState.readKept] using kept
                have fresh : bufLen (IoBufWithCursor.new buf) = n := same
                by_cases nothing : n = 0
                · simp [← stepped, CopyState.afterRead, nothing, Answer.givesBytes]
                · have some_ : 0 < n := Nat.pos_of_ne_zero nothing
                  simp [← stepped, CopyState.afterRead, CopyState.writeAll, nothing, fresh, some_,
                    Answer.givesBytes]
          · cases stepped
      | write _ => simp [CopyState.step] at stepped
      | flush _ => simp [CopyState.step] at stepped
  | writing _ _ _ => cases reads
  | flushing _ => cases reads
  | done _ => cases reads

namespace Bidirectional

theorem lock_some {s s' : Bidirectional} {d : Direction} (locked : s.lock d = some s') :
    ∃ o, s.object d = some o ∧ s.holder o ≠ some d.other ∧
      s' = { s with holder := Function.update s.holder o (some d) } := by
  obtain ⟨o, object, got⟩ := Option.bind_eq_some_iff.mp locked
  split at got
  · cases got
  · rename_i free
    cases got
    exact ⟨o, object, free, rfl⟩

theorem object_read {s : Bidirectional} {d : Direction} (object : s.object d = some d.source) :
    (s.copy d).call = some .read := by
  obtain ⟨call, here, is⟩ := Option.map_eq_some_iff.mp object
  cases call with
  | read => exact here
  | write => simp [Call.object] at is
  | flush => simp [Call.object] at is

/-- What a poll of `d` leaves alone, and how it can end. -/
structure Polled (d : Direction) (answers : List Answer) (s t : Bidirectional) : Prop where
  inv : BidirectionalInvariant t
  copyOther : t.copy d.other = s.copy d.other
  writable : t.writable = s.writable
  heldOther : ∀ o, t.holder o = some d.other ↔ s.holder o = some d.other
  pendingRead : t.holder d.source = some d ∧ (t.copy d).call = some .read ↔ .pending .read ∈ answers
  givesBytes : s.holder d.dest = some d.other →
    (t.HasBytes d ↔ s.HasBytes d ∨ ∃ answer ∈ answers, answer.givesBytes)

theorem polled_resting {d : Direction} {s : Bidirectional} (inv : BidirectionalInvariant s)
    (resting : s.resting d = true) : Polled d [] s s := by
  refine ⟨inv, rfl, rfl, fun _ => Iff.rfl, ?_, fun _ => by simp⟩
  constructor
  · rintro ⟨held, reads⟩
    have object : s.object d = some d.source := by simp [object, reads, Call.object]
    simp [Bidirectional.resting, object, held] at resting
  · simp

/-- The lock is taken and the call stays pending. -/
theorem polled_pending {d : Direction} {s : Bidirectional} {o : Object} {call : Call}
    (inv : BidirectionalInvariant s) (object : s.object d = some o) (free : s.holder o ≠ some d.other)
    (here : (s.copy d).call = some call) :
    Polled d [.pending call] s { s with holder := Function.update s.holder o (some d) } := by
  have called : call.object d = o := by simpa [Bidirectional.object, here] using object
  refine ⟨⟨?_, inv.bytes⟩, rfl, rfl, ?_, ?_, ?_⟩
  · intro o' d' held
    by_cases same : o' = o
    · subst same
      simp only [Function.update_self, Option.some.injEq] at held
      exact held ▸ object
    · simp only [Function.update_of_ne same] at held
      exact inv.owner o' d' held
  · intro o'
    by_cases same : o' = o
    · subst same
      simp [free]
    · simp [Function.update_of_ne same]
  · constructor
    · rintro ⟨-, reads⟩
      rw [here, Option.some.injEq] at reads
      simp [reads]
    · intro pending
      have reads : Call.read = call := by simpa using pending
      subst reads
      have same : d.source = o := called
      exact ⟨by simp [same], here⟩
  · intro _
    have quiet : ¬ Answer.givesBytes (.pending call) := id
    simp [quiet, HasBytes]

/-- The state after a call of `d` under the lock of `o` has returned. -/
def returned (s : Bidirectional) (d : Direction) (o : Object) (next : CopyState) : Bidirectional :=
  { s with copy := Function.update s.copy d next, holder := Function.update s.holder o none }

theorem resume_lock {s : Bidirectional} {d : Direction} {o : Object} (object : s.object d = some o)
    (next : CopyState) :
    ({ s with holder := Function.update s.holder o (some d) } : Bidirectional).resume d next =
      s.returned d o next := by
  have same : ({ s with holder := Function.update s.holder o (some d) } : Bidirectional).object d =
      some o := object
  simp only [resume, same, returned, Function.update_idem]

theorem returned_invariant {s : Bidirectional} {d : Direction} {o : Object} {event : CopyEvent}
    {next : CopyState} (inv : BidirectionalInvariant s) (object : s.object d = some o)
    (stepped : (s.copy d).step event = some next) : BidirectionalInvariant (s.returned d o next) := by
  constructor
  · intro o' d' held
    by_cases same : o' = o
    · simp [returned, same] at held
    · simp only [returned, Function.update_of_ne same] at held
      have theirs := inv.owner o' d' held
      have different : d' ≠ d := by
        rintro rfl
        exact same (Option.some.inj (theirs.symm.trans object))
      simpa [returned, Bidirectional.object, Function.update_of_ne different] using theirs
  · intro d' c read copied writes
    by_cases same : d' = d
    · subst same
      simp only [returned, Function.update_self] at writes
      exact CopyState.step_bytes (writes ▸ stepped)
    · simp only [returned, Function.update_of_ne same] at writes
      exact inv.bytes d' c read copied writes

/-- A call has returned, and the poll goes on from there. -/
theorem Polled.ready {d : Direction} {s t : Bidirectional} {o : Object} {event : CopyEvent}
    {next : CopyState} {rest : List Answer} (object : s.object d = some o)
    (free : s.holder o ≠ some d.other) (stepped : (s.copy d).step event = some next)
    (polled : Polled d rest (s.returned d o next) t) : Polled d (.ready event :: rest) s t := by
  refine ⟨polled.inv, ?_, polled.writable, ?_, ?_, ?_⟩
  · rw [polled.copyOther]
    simp [returned, Function.update_of_ne]
  · intro o'
    rw [polled.heldOther]
    by_cases same : o' = o
    · subst same
      simp [returned, free]
    · simp [returned, Function.update_of_ne same]
  · rw [polled.pendingRead]
    simp
  · -- the other holds the lock of the destination, so the call was a read
    intro held
    have elsewhere : o ≠ d.dest := fun same => free (same ▸ held)
    obtain ⟨call, here, is⟩ := Option.map_eq_some_iff.mp object
    have reads : (s.copy d).call = some .read := by
      cases call with
      | read => exact here
      | write => exact absurd is.symm elsewhere
      | flush => exact absurd is.symm elsewhere
    have without : ¬ s.HasBytes d := by
      rintro ⟨c, read, copied, writes, -⟩
      rw [writes] at reads
      cases reads
    have now : (s.returned d o next).HasBytes d ↔ (Answer.ready event).givesBytes := by
      rw [← CopyState.read_bytes_iff reads stepped]
      constructor
      · rintro ⟨c, read, copied, writes, -⟩
        exact ⟨c, read, copied, by simpa [returned] using writes⟩
      · rintro ⟨c, read, copied, writes⟩
        exact ⟨c, read, copied, by simpa [returned] using writes, CopyState.step_bytes (writes ▸ stepped)⟩
    have still : (s.returned d o next).holder d.dest = some d.other := by
      simp [returned, Function.update_of_ne (Ne.symm elsewhere), held]
    rw [polled.givesBytes still, now]
    simp [without]

theorem polled_of_poll {d : Direction} {answers : List Answer} {s t : Bidirectional}
    (inv : BidirectionalInvariant s) (poll : s.poll d answers = some t) : Polled d answers s t := by
  induction answers generalizing s with
  | nil =>
      simp only [Bidirectional.poll] at poll
      split at poll
      · rename_i resting
        cases poll
        exact polled_resting inv resting
      · cases poll
  | cons answer rest ih =>
      cases answer with
      | pending call =>
          obtain ⟨s', locked, ends⟩ := Option.bind_eq_some_iff.mp poll
          obtain ⟨o, object, free, rfl⟩ := lock_some locked
          split at ends
          · rename_i fits
            rw [Bool.and_eq_true, List.isEmpty_iff] at fits
            obtain ⟨rfl, answered⟩ := fits
            cases ends
            simp only [Bidirectional.answered, Bool.and_eq_true, decide_eq_true_eq] at answered
            exact polled_pending inv object free answered.1
          · cases ends
      | ready event =>
          obtain ⟨s', locked, onward⟩ := Option.bind_eq_some_iff.mp poll
          obtain ⟨o, object, free, rfl⟩ := lock_some locked
          obtain ⟨next, stepped, onward⟩ := Option.bind_eq_some_iff.mp onward
          rw [resume_lock object] at onward
          exact (ih (returned_invariant inv object stepped) onward).ready object free stepped

end Bidirectional

/-! ## Every run -/

theorem bidirectionalInvariant_start (writable : Object → Bool) :
    BidirectionalInvariant (.start writable) := by
  constructor <;> simp [Bidirectional.start, CopyState.start]

/-- Whoever holds the lock of the object it reads from has a read pending there. -/
theorem BidirectionalInvariant.reads {s : Bidirectional} {d : Direction} (inv : BidirectionalInvariant s)
    (held : s.holder d.dest = some d.other) : (s.copy d.other).call = some .read := by
  apply Bidirectional.object_read
  rw [Direction.source_other]
  exact inv.owner _ _ held

theorem BidirectionalInvariant.step {s t : Bidirectional} {l : BidirectionalStep}
    (inv : BidirectionalInvariant s) (stepped : s.step l = some t) : BidirectionalInvariant t := by
  cases l with
  | poll d answers => exact (Bidirectional.polled_of_poll inv stepped).inv
  | writable o accepts =>
      cases stepped
      exact ⟨inv.owner, inv.bytes⟩

/-- A poll of `d` makes a standstill of `d` exactly by giving it bytes. -/
theorem Bidirectional.Polled.standstill {d : Direction} {answers : List Answer} {s t : Bidirectional}
    (polled : Polled d answers s t) (inv : BidirectionalInvariant s) :
    Standstill t d ↔ s.writable d.dest = true ∧ s.holder d.dest = some d.other ∧
      (s.HasBytes d ∨ ∃ answer ∈ answers, answer.givesBytes) := by
  constructor
  · rintro ⟨bytes, accepts, held, -⟩
    have before := (polled.heldOther _).mp held
    exact ⟨polled.writable ▸ accepts, before, (polled.givesBytes before).mp bytes⟩
  · rintro ⟨accepts, held, bytes⟩
    refine ⟨(polled.givesBytes held).mpr bytes, polled.writable ▸ accepts, (polled.heldOther _).mpr held, ?_⟩
    rw [polled.copyOther]
    exact inv.reads held

/-- A poll of `d` makes a standstill of the other direction exactly by leaving a read
pending. -/
theorem Bidirectional.Polled.standstill_other {d : Direction} {answers : List Answer}
    {s t : Bidirectional} (polled : Polled d answers s t) :
    Standstill t d.other ↔ s.writable d.source = true ∧ s.HasBytes d.other ∧
      .pending .read ∈ answers := by
  have bytes : t.HasBytes d.other ↔ s.HasBytes d.other := by simp only [HasBytes, polled.copyOther]
  constructor
  · rintro ⟨has, accepts, held, reads⟩
    simp only [Direction.dest_other, Direction.other_other] at accepts held reads
    exact ⟨polled.writable ▸ accepts, bytes.mp has, polled.pendingRead.mp ⟨held, reads⟩⟩
  · rintro ⟨accepts, has, pending⟩
    obtain ⟨held, reads⟩ := polled.pendingRead.mpr pending
    refine ⟨bytes.mpr has, ?_, ?_, ?_⟩
    · rw [Direction.dest_other, polled.writable]
      exact accepts
    · rw [Direction.dest_other, Direction.other_other]
      exact held
    · rw [Direction.other_other]
      exact reads

/-- A read left pending under the lock was not left so under the other's lock. -/
theorem Bidirectional.Polled.free_of_pending {d : Direction} {answers : List Answer} {s t : Bidirectional}
    (polled : Polled d answers s t) (pending : .pending .read ∈ answers) :
    s.holder d.source ≠ some d.other := by
  intro before
  have after := (polled.heldOther _).mpr before
  rw [(polled.pendingRead.mpr pending).1] at after
  exact Direction.ne_other d (Option.some.inj after)

theorem Direction.eq_or_eq_other (d e : Direction) : e = d ∨ e = d.other := by
  cases d <;> cases e <;> simp [other]

/-- From a state without standstill, a poll leads to one without exactly if it keeps
the two directions apart. -/
theorem poll_standstillFree_iff {d : Direction} {answers : List Answer} {s t : Bidirectional}
    (inv : BidirectionalInvariant s) (free : StandstillFree s) (polled : s.poll d answers = some t) :
    StandstillFree t ↔ KeepsApart s (.poll d answers) := by
  have spec := Bidirectional.polled_of_poll inv polled
  constructor
  · intro free'
    constructor
    · intro accepts held answer member gives
      exact free' d ((spec.standstill inv).mpr ⟨accepts, held, .inr ⟨answer, member, gives⟩⟩)
    · intro accepts has _ pending
      exact free' d.other (spec.standstill_other.mpr ⟨accepts, has, pending⟩)
  · rintro ⟨unfed, unread⟩ e still
    obtain rfl | rfl := Direction.eq_or_eq_other d e
    · obtain ⟨accepts, held, has | ⟨answer, member, gives⟩⟩ := (spec.standstill inv).mp still
      · exact free e ⟨has, accepts, held, inv.reads held⟩
      · exact unfed accepts held answer member gives
    · obtain ⟨accepts, has, pending⟩ := spec.standstill_other.mp still
      exact unread accepts has (spec.free_of_pending pending) pending

theorem writable_standstillFree_iff {o : Object} {accepts : Bool} {s : Bidirectional}
    (inv : BidirectionalInvariant s) (free : StandstillFree s) :
    StandstillFree { s with writable := Function.update s.writable o accepts } ↔
      KeepsApart s (.writable o accepts) := by
  constructor
  · rintro free' d rfl has held
    by_contra accepting
    refine free' d ⟨has, ?_, held, inv.reads held⟩
    simpa using accepting
  · intro apart d still
    by_cases same : d.dest = o
    · have refused := apart d same still.bytes (same ▸ still.held)
      have accepted := still.accepts
      simp [same, refused] at accepted
    · refine free d ⟨still.bytes, ?_, still.held, still.reads⟩
      have accepted := still.accepts
      simpa [Function.update_of_ne same] using accepted

/-- **When the two directions do not block each other**: a run is free of standstills
exactly if each of its steps keeps them apart. -/
theorem standstill_free_iff {writable : Object → Bool} {labels : List BidirectionalStep}
    {t : Bidirectional} (ran : bidirectionalMachine.exec (.start writable) labels = some t) :
    bidirectionalMachine.Throughout StandstillFree (.start writable) labels ↔
      bidirectionalMachine.AllSteps KeepsApart (.start writable) labels := by
  have exact_ {s t : Bidirectional} {l : BidirectionalStep} (inv : BidirectionalInvariant s)
      (free : StandstillFree s) (stepped : s.step l = some t) : StandstillFree t ↔ KeepsApart s l := by
    cases l with
    | poll d answers => exact poll_standstillFree_iff inv free stepped
    | writable o accepts =>
        cases stepped
        exact writable_standstillFree_iff inv free
  refine Machine.throughout_iff_allSteps (M := bidirectionalMachine)
    (I := fun s => BidirectionalInvariant s ∧ StandstillFree s) ?_ (fun _ holds => holds.2) ?_
    ⟨bidirectionalInvariant_start writable, ?_⟩ ran
  · rintro s l t ⟨inv, free⟩ apart stepped
    exact ⟨inv.step stepped, (exact_ inv free stepped).mpr apart⟩
  · rintro s l t ⟨inv, free⟩ outside stepped free'
    exact outside ((exact_ inv free stepped).mp free')
  · rintro d ⟨⟨c, read, copied, writes, -⟩, -⟩
    cases writes

/-- One byte. -/
def oneByte : VecU8 := ⟨[7], 1, Nat.le_refl _⟩

/-- The first direction copies a byte and reads on. -/
theorem standstill_free_one_byte :
    bidirectionalMachine.Throughout StandstillFree (.start fun _ => true)
      [.poll .f1 [.ready (.read (.ok 1) oneByte), .ready (.write (.ok 1)), .pending .read]] := by
  refine (standstill_free_iff (t := _) rfl).mpr ⟨⟨?_, ?_⟩, fun _ _ => trivial⟩
  · intro _ held
    cases held
  · rintro _ ⟨c, read, copied, writes, -⟩
    cases writes

/-- Both directions wait for their reads; then the first is given a byte for an object
that would accept it, whose lock the second has. -/
def bothReading : List BidirectionalStep :=
  [.poll .f1 [.pending .read], .poll .f2 [.pending .read],
   .poll .f1 [.ready (.read (.ok 1) oneByte)], .poll .f2 [.pending .read]]

theorem standstill_both_reading :
    ∃ s, bidirectionalMachine.exec (.start fun _ => true) bothReading = some s ∧ Standstill s .f1 :=
  ⟨_, rfl, ⟨_, _, _, rfl, Nat.one_pos⟩, rfl, rfl, rfl⟩

end Vibeio.Io
