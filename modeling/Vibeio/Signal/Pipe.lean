/-
# Signal.Pipe -- signal numbers on their way through the pipe

`signal_handler` writes the number of a signal into a pipe as four bytes in the order of the
machine, and `dispatch_loop` reads them back.  A read returns any part of what the pipe
holds, so a word can arrive over several reads and several words in one; `pending` carries
the bytes of the unfinished word from one read to the next.

A run interleaves handlers, in any number of threads, with the steps of the loop: one call
of `read`, or one byte of the buffer it filled.  Of the system it is assumed that a write of
four bytes is all or nothing.

* `dispatch_follows_writes`: what `dispatch_signal` has been called with are the numbers
  written, in order, as far as their bytes have been gone through.
-/
import Vibeio.Theory.Bytes
import Vibeio.Theory.Machine

namespace Vibeio.Signal

set_option autoImplicit false

open Vibeio.Theory

/-! ## The loop and the handlers -/

/-- `libc::c_int`. -/
abbrev CInt := Word 4

/-- The pipe, the two buffers of `dispatch_loop`, and what the run has done so far.
`rest` is the part of `&buf[..n]` the inner loop has not reached. -/
structure PipeState where
  writeFd : Int
  content : List UInt8
  buf : List UInt8
  rest : List UInt8
  pending : List UInt8
  written : List CInt
  taken : List UInt8
  dispatched : List CInt
  deriving DecidableEq, Repr

/-- Why a `read` returned a negative count. -/
inductive ReadError where
  | interrupted
  | wouldBlock
  | other
  deriving DecidableEq, Repr

inductive PipeStep where
  /-- A handler runs; `fits` says whether the pipe had room for the four bytes. -/
  | handler (signum : CInt) (fits : Bool)
  /-- A call of `read` that returns this many bytes. -/
  | read (n : Nat)
  | readZero
  | readError (kind : ReadError)
  /-- One turn of `for byte in &buf[..n]`. -/
  | byte
  deriving DecidableEq, Repr

/-- `signal_handler`.  The result of the write is not looked at. -/
def signalHandler (e : Endian) (s : PipeState) (signum : CInt) (fits : Bool) : PipeState :=
  if s.writeFd < 0 then s
  else if fits then
    { s with content := s.content ++ toNeBytes e 4 signum, written := s.written ++ [signum] }
  else s

/-- `dispatch_signal`, as the call the loop makes. -/
def PipeState.dispatchSignal (s : PipeState) (signum : CInt) : PipeState :=
  { s with dispatched := s.dispatched ++ [signum] }

/-- `libc::read` into the front of `buf`, up to the slice the inner loop goes over. -/
def PipeState.readBytes (s : PipeState) (n : Nat) : PipeState :=
  let buf := s.content.take n ++ s.buf.drop n
  { s with content := s.content.drop n, buf := buf, rest := buf.take n }

/-- The body of the inner loop. -/
def PipeState.pushByte (e : Endian) (s : PipeState) (byte : UInt8) (more : List UInt8) : PipeState :=
  let s := { s with rest := more, taken := s.taken ++ [byte] }
  let pending := s.pending ++ [byte]
  if pending.length = 4 then
    { s with pending := [] }.dispatchSignal (fromNeBytes e 4 pending)
  else { s with pending := pending }

def PipeState.step (e : Endian) (s : PipeState) : PipeStep → Option PipeState
  | .handler signum fits => some (signalHandler e s signum fits)
  | .read n =>
      if s.rest = [] ∧ 0 < n ∧ n ≤ s.content.length ∧ n ≤ 128 then some (s.readBytes n) else none
  | .readZero => if s.rest = [] then some s else none
  -- the loop sleeps for ten milliseconds before it goes on after `WouldBlock`
  | .readError .interrupted => if s.rest = [] then some s else none
  | .readError .wouldBlock => if s.rest = [] then some s else none
  | .readError .other => if s.rest = [] then some s else none
  | .byte =>
      match s.rest with
      | [] => none
      | byte :: more => some (s.pushByte e byte more)

/-- `dispatch_loop` as its thread enters it. -/
def PipeState.initial (writeFd : Int) : PipeState where
  writeFd := writeFd
  content := []
  buf := List.replicate 128 0
  rest := []
  pending := []
  written := []
  taken := []
  dispatched := []

def pipeMachine (e : Endian) : Machine PipeState PipeStep where
  start s := ∃ writeFd, s = .initial writeFd
  step := PipeState.step e

/-! ## Words stay aligned -/

/-- The bytes gone through are the words dispatched and then `pending`; with what is still
to come they are the words written. -/
structure PipeState.Aligned (e : Endian) (s : PipeState) : Prop where
  framed : Framed 4 (s.dispatched.map (toNeBytes e 4)) s.pending s.taken
  stream : s.taken ++ s.rest ++ s.content = (s.written.map (toNeBytes e 4)).flatten

variable {e : Endian} {s t : PipeState}

theorem PipeState.Aligned.handler (aligned : s.Aligned e) (signum : CInt) (fits : Bool) :
    (signalHandler e s signum fits).Aligned e := by
  unfold signalHandler
  split
  · exact aligned
  · split
    · refine ⟨aligned.framed, ?_⟩
      simp [← aligned.stream]
    · exact aligned

/-- The old bytes of `buf` do not show: the slice is as long as what was read. -/
theorem PipeState.readBytes_rest {n : Nat} (available : n ≤ s.content.length) :
    (s.readBytes n).rest = s.content.take n := by
  have count : (s.content.take n).length = n := List.length_take_of_le available
  simp only [readBytes]
  rw [List.take_append_of_le_length (by omega), List.take_of_length_le (by omega)]

theorem PipeState.Aligned.readBytes {n : Nat} (aligned : s.Aligned e) (idle : s.rest = [])
    (available : n ≤ s.content.length) : (s.readBytes n).Aligned e := by
  refine ⟨aligned.framed, ?_⟩
  have stream := aligned.stream
  rw [idle, List.append_nil] at stream
  rw [readBytes_rest available]
  show s.taken ++ s.content.take n ++ s.content.drop n = _
  rw [List.append_assoc, List.take_append_drop, stream]
  rfl

theorem PipeState.Aligned.pushByte {byte : UInt8} {more : List UInt8} (aligned : s.Aligned e)
    (next : s.rest = byte :: more) : (s.pushByte e byte more).Aligned e := by
  have stream : s.taken ++ [byte] ++ more ++ s.content
      = (s.written.map (toNeBytes e 4)).flatten := by
    have := aligned.stream
    rw [next] at this
    simpa using this
  have pushed := aligned.framed.push byte
  unfold PipeState.pushByte
  by_cases complete : (s.pending ++ [byte]).length = 4
  · rw [if_pos complete] at pushed
    simp only [complete, if_true]
    refine ⟨?_, stream⟩
    simp only [dispatchSignal, List.map_append, List.map_cons, List.map_nil]
    rw [toNeBytes_fromNeBytes e complete]
    exact pushed
  · rw [if_neg complete] at pushed
    simp only [complete, if_false]
    exact ⟨pushed, stream⟩

theorem PipeState.Aligned.step {label : PipeStep} (aligned : s.Aligned e)
    (stepped : s.step e label = some t) : t.Aligned e := by
  cases label with
  | handler signum fits =>
      cases stepped
      exact aligned.handler signum fits
  | read n =>
      simp only [PipeState.step, Option.ite_none_right_eq_some, Option.some.injEq] at stepped
      obtain ⟨⟨idle, -, available, -⟩, rfl⟩ := stepped
      exact aligned.readBytes idle available
  | readZero =>
      simp only [PipeState.step, Option.ite_none_right_eq_some, Option.some.injEq] at stepped
      exact stepped.2 ▸ aligned
  | readError kind =>
      cases kind <;>
        (simp only [PipeState.step, Option.ite_none_right_eq_some, Option.some.injEq] at stepped
         exact stepped.2 ▸ aligned)
  | byte =>
      simp only [PipeState.step] at stepped
      split at stepped
      · cases stepped
      · rename_i next
        cases stepped
        exact aligned.pushByte next

theorem PipeState.aligned_of_reachable (reachable : (pipeMachine e).Reachable s) : s.Aligned e := by
  refine Machine.invariant (I := PipeState.Aligned e) ?_ ?_ reachable
  · rintro first ⟨writeFd, rfl⟩
    exact ⟨Framed.nil (by decide), rfl⟩
  · intro before label after aligned stepped
    exact aligned.step stepped

/-! ## Nothing stays behind -/

/-- The inner loop gets to the end of what was read. -/
theorem PipeState.finishes_slice (s : PipeState) :
    ∃ t, (pipeMachine e).Runs s t ∧ t.rest = [] ∧ t.content = s.content ∧ t.written = s.written := by
  induction rest : s.rest generalizing s with
  | nil => exact ⟨s, Machine.Runs.refl s, rest, rfl, rfl⟩
  | cons byte more ih =>
      obtain ⟨t, runs, done, content, written⟩ := ih (s.pushByte e byte more)
        (by unfold pushByte; simp only; split <;> rfl)
      have first : (pipeMachine e).Runs s (s.pushByte e byte more) :=
        Machine.Runs.of_step .byte (by simp [pipeMachine, PipeState.step, rest])
      have keeps : (s.pushByte e byte more).content = s.content ∧
          (s.pushByte e byte more).written = s.written := by
        unfold pushByte; simp only; split <;> exact ⟨rfl, rfl⟩
      exact ⟨t, first.trans runs, done, content.trans keeps.1, written.trans keeps.2⟩

/-- From every state the loop can go on until the pipe is empty. -/
theorem PipeState.drains (s : PipeState) :
    ∃ t, (pipeMachine e).Runs s t ∧ t.rest = [] ∧ t.content = [] ∧ t.written = s.written := by
  induction count : s.content.length using Nat.strong_induction_on generalizing s with
  | _ size ih =>
      obtain ⟨idle, toIdle, rest, content, written⟩ := finishes_slice (e := e) s
      by_cases empty : idle.content = []
      · exact ⟨idle, toIdle, rest, empty, written⟩
      · have positive : 0 < idle.content.length := List.length_pos_iff.mpr empty
        have reads : (pipeMachine e).Runs idle (idle.readBytes 1) :=
          Machine.Runs.of_step (.read 1) (by
            show (if _ then _ else _) = _
            exact if_pos ⟨rest, by decide, positive, by decide⟩)
        have shorter : (idle.readBytes 1).content.length < size := by
          have : idle.content.length = size := by rw [content, count]
          simp only [readBytes, List.length_drop]
          omega
        obtain ⟨t, runs, done, drained, kept⟩ := ih _ shorter (idle.readBytes 1) rfl
        exact ⟨t, toIdle.trans (reads.trans runs), done, drained, kept.trans written⟩

/-! ## Framing of the pipe -/

theorem length_of_mem_map_toNeBytes {signals : List CInt} :
    ∀ word ∈ signals.map (toNeBytes e 4), word.length = 4 := by
  intro word member
  obtain ⟨signum, -, rfl⟩ := List.mem_map.mp member
  exact length_toNeBytes e 4 signum

theorem eq_of_map_toNeBytes_eq {a b : List CInt}
    (same : a.map (toNeBytes e 4) = b.map (toNeBytes e 4)) : a = b :=
  (List.map_inj_right fun _ _ equal => toNeBytes_injective e 4 equal).mp same

theorem PipeState.Aligned.dispatched_eq (aligned : s.Aligned e) :
    s.dispatched = s.written.take (s.taken.length / 4) := by
  have taken := aligned.framed.eq_take length_of_mem_map_toNeBytes
    (by rw [← List.append_assoc]; exact aligned.stream)
  rw [aligned.framed.length, ← List.map_take] at taken
  exact eq_of_map_toNeBytes_eq taken

theorem PipeState.Aligned.all_dispatched (aligned : s.Aligned e) (idle : s.rest = [])
    (empty : s.content = []) : s.dispatched = s.written ∧ s.pending = [] := by
  have stream := aligned.stream
  rw [idle, empty, List.append_nil, List.append_nil] at stream
  have framed := aligned.framed
  rw [stream] at framed
  obtain ⟨same, none_held⟩ := framed.eq_words length_of_mem_map_toNeBytes
  exact ⟨eq_of_map_toNeBytes_eq same, none_held⟩

/-- **Signals come out of the pipe as they went in.**  On a machine of either byte order,
for every interleaving of handlers and reads of every length, with interruptions and empty
results anywhere: `dispatch_signal` has been called with exactly the numbers written whose
bytes have been gone through, in order; `pending` is the rest of those bytes, less than a
word; nothing is lost between the pipe and the loop; and once the pipe is empty every
number written has been dispatched, which from any state the loop can bring about. -/
theorem dispatch_follows_writes (e : Endian) (s : PipeState)
    (reachable : (pipeMachine e).Reachable s) :
    s.dispatched = s.written.take (s.taken.length / 4) ∧
    s.pending = s.taken.drop (4 * (s.taken.length / 4)) ∧
    s.pending.length < 4 ∧
    s.taken ++ s.rest ++ s.content = (s.written.map (toNeBytes e 4)).flatten ∧
    (s.rest = [] → s.content = [] → s.dispatched = s.written ∧ s.pending = []) ∧
    ∃ t, (pipeMachine e).Runs s t ∧ t.written = s.written ∧ t.dispatched = s.written := by
  have aligned := PipeState.aligned_of_reachable reachable
  refine ⟨aligned.dispatched_eq, aligned.framed.held_eq, aligned.framed.short, aligned.stream,
    aligned.all_dispatched, ?_⟩
  obtain ⟨t, runs, idle, empty, written⟩ := s.drains (e := e)
  obtain ⟨labels, ran⟩ := runs
  have alignedLater : t.Aligned e :=
    Machine.exec_invariant (fun _ _ _ before stepped => before.step stepped) aligned ran
  exact ⟨t, ⟨labels, ran⟩, written, (alignedLater.all_dispatched idle empty).1.trans written⟩

/-- SIGCHLD and SIGINT on a little-endian machine, cut after the first byte and in the
middle of the second word, with an interrupted and an empty read between. -/
def childThenInterrupt : List PipeStep :=
  [.handler 17 true, .read 1, .byte, .readError .interrupted, .handler 2 true, .read 5,
    .byte, .byte, .byte, .byte, .byte, .readZero, .read 2, .byte, .byte]

theorem dispatch_follows_writes_split_words :
    ∃ s, (pipeMachine .little).exec (.initial 3) childThenInterrupt = some s ∧
      s.dispatched = [17, 2] ∧ s.dispatched = s.written.take (s.taken.length / 4) := by
  refine ⟨_, rfl, by decide, ?_⟩
  exact (dispatch_follows_writes .little _
    ⟨.initial 3, childThenInterrupt, ⟨3, rfl⟩, rfl⟩).1

end Vibeio.Signal
