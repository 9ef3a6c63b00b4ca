/-
# Io.Sendfile -- `sendfile_exact` on the readiness path

`sendfile_exact_poll` repeats `SendfileOp` until `len` bytes are counted or the file
ends.  Each poll of the operation is one system call.  A call may move some bytes and
then report an error; only a call that succeeds is counted.

Linux is given a null offset and keeps the place in the file position.  FreeBSD starts
at the offset argument, which is 0 in every call, leaves the file position alone, and
reports the bytes it moved in `sbytes` also when it fails with `EAGAIN`.

What reaches the socket is kept as the list of the file positions it came from, so that
a byte sent twice shows even in a file of equal bytes (`bytes` reads the content back).

* `run_linux`: on Linux the positions are consecutive from the start, whatever happens.
* `run_freebsd`: on FreeBSD every call that moves bytes moves them from position 0.
* `sendfile_exact_iff`: which calls that leaves for an exact transfer.
-/
import Mathlib.Algebra.Order.Ring.Nat
import Vibeio.Io.Splice

namespace Vibeio.Io

set_option autoImplicit false

open Vibeio.Theory
open Vibeio.Driver (IoError EAGAIN)

inductive Platform where
  | linux
  | freebsd
  deriving DecidableEq, Repr

/-- What the system did in one poll: the bytes it moved, the error of the call if it
failed, and the answer of `submit_poll`, which is asked if the error is `WouldBlock`. -/
structure SendfileCall where
  moved : Nat
  error : Option IoError
  submitted : Except IoError Unit

namespace SendfileOp

/-- `returned`: what `libc::sendfile` gives on Linux, and what is made of its result and
`sbytes` on FreeBSD. -/
def returned (platform : Platform) (call : SendfileCall) : Int :=
  match platform with
  | .linux => if call.error.isSome then -1 else call.moved
  | .freebsd =>
      let result : Int := if call.error.isSome then -1 else 0
      let sbytes : Int := call.moved
      if result < 0 then result else sbytes

/-- `poll_result_or_wait`, given the answer of `submit_poll`. -/
def pollResultOrWait (result : Except IoError Nat) (submitted : Except IoError Unit) :
    Poll (Except IoError Nat) :=
  match result with
  | .ok value => .ready (.ok value)
  | .error err =>
      if err.isWouldBlock then
        match submitted with
        | .error submitErr => .ready (.error submitErr)
        | .ok _ => .pending
      else .ready (.error err)

/-- `io::Error::last_os_error()`, read only after a call that failed. -/
def lastOsError (call : SendfileCall) : IoError := call.error.getD (.os 0)

def pollPoll (platform : Platform) (call : SendfileCall) : Poll (Except IoError Nat) :=
  let returned := returned platform call
  let result := if returned = -1 then .error (lastOsError call) else .ok returned.toNat
  pollResultOrWait result call.submitted

end SendfileOp

inductive SendingPhase where
  | sending
  | done (result : Except IoError Nat)

/-- `position` is the position of the file, `sink` the positions of the bytes the socket
has been given. -/
structure Sending where
  phase : SendingPhase
  total : Nat
  position : Nat
  sink : List Nat

namespace Sending

variable (platform : Platform) (len : Nat) (file : List UInt8)

/-- The head of the loop. -/
def atHead (s : Sending) : Sending :=
  if s.total < len then { s with phase := .sending } else { s with phase := .done (.ok s.total) }

def start (position : Nat) : Sending :=
  atHead len { phase := .sending, total := 0, position, sink := [] }

/-- Where in the file a call takes its bytes from. -/
def offset (s : Sending) : Nat :=
  match platform with
  | .linux => s.position
  | .freebsd => 0

/-- What the system may do: move no more than asked for and there is, nothing with
success only at the end of the file, and on Linux nothing with an error. -/
def allows (s : Sending) (call : SendfileCall) : Bool :=
  let request := clampUsize (len - s.total)
  let available := file.length - s.offset platform
  match call.error with
  | none => admits request available call.moved
  | some _ => call.moved ≤ request && call.moved ≤ available && (platform != .linux || call.moved == 0)

/-- The bytes that moved are with the socket whatever the operation reports. -/
def move (s : Sending) (call : SendfileCall) : Sending :=
  { s with
    sink := s.sink ++ List.range' (s.offset platform) call.moved
    position := match platform with
      | .linux => s.position + call.moved
      | .freebsd => s.position }

/-- One poll of the operation of this turn. -/
def step (s : Sending) (call : SendfileCall) : Option Sending :=
  match s.phase with
  | .done _ => none
  | .sending =>
      if s.allows platform len file call then
        let t := s.move platform call
        match SendfileOp.pollPoll platform call with
        | .pending => some t
        | .ready (.error err) => some { t with phase := .done (.error err) }
        | .ready (.ok n) =>
            if n = 0 then some { t with phase := .done (.ok t.total) }
            else some (atHead len { t with total := t.total + n })
      else none

end Sending

/-- `sendfile_exact_poll` of `len` bytes of `file`, standing at any position. -/
def sendfilePollMachine (platform : Platform) (len : Nat) (file : List UInt8) :
    Machine Sending SendfileCall where
  start s := ∃ position, s = .start len position
  step := Sending.step platform len file

/-- The bytes at these positions. -/
def bytesAt (file : List UInt8) (positions : List Nat) : List UInt8 := positions.filterMap (file[·]?)

/-- The socket has been given the `total` bytes of the file from `position` on, each once
and in order. -/
structure Sending.Exact (s : Sending) (file : List UInt8) (position total : Nat) : Prop where
  positions : s.sink = List.range' position total
  bytes : bytesAt file s.sink = (file.drop position).take total

/-- On FreeBSD, at most one call moves bytes; it reports success, and the file stood at
its beginning. -/
def FromTheBeginning (position : Nat) (calls : List SendfileCall) : Prop :=
  (calls.filter (0 < ·.moved)).length ≤ 1 ∧
    ∀ call ∈ calls, 0 < call.moved → call.error = none ∧ position = 0

/-! ## One poll -/

/-- The bytes of a call that the loop counts. -/
def SendfileCall.counted (call : SendfileCall) : Nat := if call.error.isNone then call.moved else 0

/-- On both platforms a call that fails is an error, and its bytes are forgotten. -/
theorem SendfileOp.pollPoll_eq (platform : Platform) (call : SendfileCall) :
    pollPoll platform call =
      match call.error with
      | none => .ready (.ok call.moved)
      | some err => pollResultOrWait (.error err) call.submitted := by
  obtain ⟨moved, error, submitted⟩ := call
  have counts : (moved : Int) ≠ -1 := by omega
  cases platform <;> cases error <;> simp [pollPoll, returned, lastOsError, pollResultOrWait, counts]

/-- An error is returned or waited for. -/
theorem SendfileOp.pollResultOrWait_error (err : IoError) (submitted : Except IoError Unit) :
    pollResultOrWait (.error err) submitted = .pending ∨
      ∃ other, pollResultOrWait (.error err) submitted = .ready (.error other) := by
  simp only [pollResultOrWait]
  split
  · cases submitted with
    | error submitErr => exact Or.inr ⟨submitErr, rfl⟩
    | ok _ => exact Or.inl rfl
  · exact Or.inr ⟨err, rfl⟩

namespace Sending

variable {platform : Platform} {len : Nat} {file : List UInt8}

@[simp] theorem atHead_total (s : Sending) : (s.atHead len).total = s.total := by
  unfold atHead
  split <;> rfl

@[simp] theorem atHead_position (s : Sending) : (s.atHead len).position = s.position := by
  unfold atHead
  split <;> rfl

@[simp] theorem atHead_sink (s : Sending) : (s.atHead len).sink = s.sink := by
  unfold atHead
  split <;> rfl

/-- The count a transfer returns is the one it has kept. -/
def Returns (s : Sending) : Prop := ∀ total, s.phase = .done (.ok total) → total = s.total

theorem returns_atHead (s : Sending) : (s.atHead len).Returns := by
  intro total done
  rw [atHead_total]
  unfold atHead at done
  split at done
  · cases done
  · cases done
    rfl

/-- Everything a poll does: the bytes move, and those of a call that succeeds count. -/
theorem step_spec {s t : Sending} {call : SendfileCall} (stepped : s.step platform len file call = some t) :
    s.allows platform len file call = true ∧ t.Returns ∧ t.total = s.total + call.counted ∧
      t.sink = (s.move platform call).sink ∧ t.position = (s.move platform call).position := by
  unfold step at stepped
  split at stepped
  · cases stepped
  rw [SendfileOp.pollPoll_eq] at stepped
  split at stepped
  · rename_i sending allowed
    refine ⟨allowed, ?_⟩
    cases failed : call.error with
    | none =>
        simp only [failed] at stepped
        split at stepped
        · rename_i nothing
          cases stepped
          refine ⟨fun total done => ?_, ?_, rfl, rfl⟩
          · cases done
            rfl
          · simp [move, SendfileCall.counted, nothing]
        · cases stepped
          refine ⟨returns_atHead _, ?_, ?_, ?_⟩ <;> simp [move, SendfileCall.counted, failed]
    | some err =>
        have nothing : call.counted = 0 := by simp [SendfileCall.counted, failed]
        simp only [failed] at stepped
        rcases SendfileOp.pollResultOrWait_error err call.submitted with waits | ⟨other, fails⟩
        · rw [waits] at stepped
          cases stepped
          refine ⟨fun total done => ?_, by rw [nothing]; rfl, rfl, rfl⟩
          exact absurd (sending.symm.trans done) (by simp)
        · rw [fails] at stepped
          cases stepped
          refine ⟨fun total done => ?_, by rw [nothing]; rfl, rfl, rfl⟩
          cases done
  · cases stepped

/-! ## Whole transfers -/

theorem returns_run {s t : Sending} {calls : List SendfileCall} (returns : s.Returns)
    (ran : (sendfilePollMachine platform len file).exec s calls = some t) : t.Returns :=
  Machine.exec_invariant (I := Returns) (fun _ _ _ _ stepped => (step_spec stepped).2.1) returns ran

/-- On Linux a call that fails moves nothing, so what moves is what counts. -/
theorem moved_eq_counted {s : Sending} {call : SendfileCall}
    (allowed : s.allows .linux len file call = true) : call.moved = call.counted := by
  unfold allows at allowed
  unfold SendfileCall.counted
  cases failed : call.error with
  | none => rfl
  | some err => simp_all

/-- The positions sent so far are consecutive and the file position comes after them. -/
def InOrder (position : Nat) (s : Sending) : Prop :=
  s.sink = List.range' position s.total ∧ s.position = position + s.total

theorem run_linux {s t : Sending} {calls : List SendfileCall} {position : Nat} (inOrder : s.InOrder position)
    (ran : (sendfilePollMachine .linux len file).exec s calls = some t) : t.InOrder position := by
  refine Machine.exec_invariant (fun u call v inOrder stepped => ?_) inOrder ran
  obtain ⟨allowed, -, total, sink, place⟩ := step_spec stepped
  have counted := moved_eq_counted allowed
  obtain ⟨sent, stands⟩ := inOrder
  constructor
  · rw [sink, total, ← counted]
    simp only [move, offset, sent, stands]
    exact List.range'_append_1
  · rw [place, total, ← counted]
    simp only [move, stands]
    omega

/-- On FreeBSD every call starts again at the beginning of the file. -/
theorem run_freebsd {s t : Sending} {calls : List SendfileCall}
    (ran : (sendfilePollMachine .freebsd len file).exec s calls = some t) :
    t.sink = s.sink ++ calls.flatMap (fun call => List.range' 0 call.moved) ∧
      t.total = s.total + (calls.map (·.counted)).sum := by
  induction calls generalizing s with
  | nil =>
      cases ran
      simp
  | cons call rest ih =>
      obtain ⟨next, stepped, onward⟩ := Machine.exec_cons _ |>.mp ran
      obtain ⟨-, -, total, sink, -⟩ := step_spec stepped
      obtain ⟨restSink, restTotal⟩ := ih onward
      rw [restSink, restTotal, sink, total]
      simp only [move, offset, List.flatMap_cons, List.map_cons, List.sum_cons, List.append_assoc,
        Nat.add_assoc, and_self]

end Sending

/-! ## Exact transfers -/

theorem bytesAt_range' (file : List UInt8) (position total : Nat) :
    bytesAt file (List.range' position total) = (file.drop position).take total := by
  induction total with
  | zero => simp [bytesAt]
  | succ total ih =>
      have one : bytesAt file [position + total] = (file.drop position)[total]?.toList := by
        rw [List.getElem?_drop, bytesAt, List.filterMap_cons]
        cases file[position + total]? <;> rfl
      rw [List.take_add_one, ← ih, ← one, List.range'_1_concat]
      exact List.filterMap_append ..

theorem Sending.exact_iff {s : Sending} {file : List UInt8} {position total : Nat} :
    s.Exact file position total ↔ s.sink = List.range' position total := by
  constructor
  · exact fun same => same.positions
  · intro positions
    exact ⟨positions, by rw [positions, bytesAt_range']⟩

/-- Calls that move nothing matter neither to the socket nor to the count. -/
theorem sent_by_movers (calls : List SendfileCall) :
    calls.flatMap (fun call => List.range' 0 call.moved) =
        (calls.filter (0 < ·.moved)).flatMap (fun call => List.range' 0 call.moved) ∧
      (calls.map (·.counted)).sum = ((calls.filter (0 < ·.moved)).map (·.counted)).sum := by
  induction calls with
  | nil => exact ⟨rfl, rfl⟩
  | cons call rest ih =>
      by_cases moves : 0 < call.moved
      · simp [moves, ih.1, ih.2]
      · have nothing : call.moved = 0 := by omega
        have uncounted : call.counted = 0 := by simp [SendfileCall.counted, nothing]
        simp [nothing, uncounted, ih.1, ih.2]

/-- One call from position 0 is exact if its bytes count and the file stood there; two
that move bytes send position 0 twice. -/
theorem movers_exact_iff {movers : List SendfileCall} {position : Nat}
    (move : ∀ call ∈ movers, 0 < call.moved) :
    movers.flatMap (fun call => List.range' 0 call.moved) =
        List.range' position (movers.map (·.counted)).sum ↔
      movers.length ≤ 1 ∧ ∀ call ∈ movers, call.error = none ∧ position = 0 := by
  match movers, move with
  | [], _ => simp
  | [call], move =>
      have some_ : 0 < call.moved := move call List.mem_cons_self
      simp only [List.flatMap_cons, List.flatMap_nil, List.append_nil, List.map_cons, List.map_nil,
        List.sum_cons, List.sum_nil, Nat.add_zero, List.length_singleton, le_refl, true_and,
        List.mem_singleton, forall_eq]
      constructor
      · intro same
        have counted : call.moved = call.counted := by simpa using congrArg List.length same
        have succeeded : call.error = none := by
          unfold SendfileCall.counted at counted
          split at counted
          · rename_i none_
            simpa using none_
          · omega
        refine ⟨succeeded, ?_⟩
        have first := congrArg List.head? same
        rw [List.head?_range', List.head?_range', ← counted, if_neg (by omega), if_neg (by omega)] at first
        simpa using first.symm
      · rintro ⟨succeeded, rfl⟩
        simp [SendfileCall.counted, succeeded]
  | first :: second :: rest, move =>
      constructor
      · intro same
        have distinct : (List.range' 0 first.moved ++
            (second :: rest).flatMap fun call => List.range' 0 call.moved).Nodup := by
          have all := List.nodup_range' (s := position) (n := ((first :: second :: rest).map (·.counted)).sum)
          rwa [← same, List.flatMap_cons] at all
        have inFirst : 0 ∈ List.range' 0 first.moved := by
          simpa using move first (by simp)
        have inSecond : 0 ∈ (second :: rest).flatMap fun call => List.range' 0 call.moved := by
          refine List.mem_flatMap.mpr ⟨second, by simp, ?_⟩
          simpa using move second (by simp)
        exact absurd rfl ((List.nodup_append.mp distinct).2.2 0 inFirst 0 inSecond)
      · rintro ⟨few, -⟩
        simp at few

/-- **When `sendfile_exact` sends the file it is given.**  For every file, position, `len`
and sequence of answers of the system, on both platforms: a transfer that returns
`Ok(total)` has given the socket exactly the `total` bytes from its position on, if and
only if the platform is Linux or at most one call moved bytes, with success, from a file
that stood at its beginning. -/
theorem sendfile_exact_iff {platform : Platform} {len position total : Nat} {file : List UInt8} {t : Sending}
    {calls : List SendfileCall}
    (ran : (sendfilePollMachine platform len file).exec (.start len position) calls = some t)
    (returned : t.phase = .done (.ok total)) :
    t.Exact file position total ↔ platform = .linux ∨ FromTheBeginning position calls := by
  have starts : (Sending.start len position).Returns := Sending.returns_atHead _
  have counts : total = t.total := Sending.returns_run starts ran total returned
  rw [Sending.exact_iff, counts]
  cases platform with
  | linux =>
      have inOrder : (Sending.start len position).InOrder position := by
        simp [Sending.start, Sending.InOrder]
      simp [(Sending.run_linux inOrder ran).1]
  | freebsd =>
      obtain ⟨sink, sum⟩ := Sending.run_freebsd ran
      obtain ⟨sent, counted⟩ := sent_by_movers calls
      rw [sink, sum, sent, counted]
      simp only [Sending.start, Sending.atHead_sink, Sending.atHead_total, List.nil_append, Nat.zero_add,
        reduceCtorEq, false_or]
      rw [movers_exact_iff (by simp)]
      simp [FromTheBeginning, and_imp]

/-- Three bytes of Linux, the second call held up. -/
theorem sendfile_exact_on_linux :
    ∃ t, (sendfilePollMachine .linux 3 [10, 20, 30, 40]).exec (.start 3 1)
        [⟨2, none, .ok ()⟩, ⟨0, some (.os EAGAIN), .ok ()⟩, ⟨1, none, .ok ()⟩] = some t ∧
      (t.Exact [10, 20, 30, 40] 1 3 ↔ Platform.linux = .linux ∨ FromTheBeginning 1
        [⟨2, none, .ok ()⟩, ⟨0, some (.os EAGAIN), .ok ()⟩, ⟨1, none, .ok ()⟩]) :=
  ⟨_, rfl, @sendfile_exact_iff .linux 3 1 3 [10, 20, 30, 40] _ _ rfl rfl⟩

/-- Four bytes on FreeBSD: the socket takes two and is full, then takes four.  It has been
given the first two bytes twice. -/
theorem freebsd_repeats_bytes_after_again :
    ∃ t, (sendfilePollMachine .freebsd 4 [10, 20, 30, 40]).exec (.start 4 0)
        [⟨2, some (.os EAGAIN), .ok ()⟩, ⟨4, none, .ok ()⟩] = some t ∧
      t.phase = .done (.ok 4) ∧ bytesAt [10, 20, 30, 40] t.sink = [10, 20, 10, 20, 30, 40] ∧
      ¬ t.Exact [10, 20, 30, 40] 0 4 := by
  refine ⟨_, rfl, rfl, rfl, fun same => ?_⟩
  exact absurd same.positions (by decide)

end Vibeio.Io
