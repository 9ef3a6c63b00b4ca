/-
# Fs.Exact -- reading and writing a buffer whole, at an offset

`read_exact_at` and `write_exact_at` are one loop around `read_at` and `write_at`: as long
as the cursor buffer is not used up, call again at an offset moved by what the last call
returned.  The offset and the cursor are moved apart from each other.

* `write_exact_at_writes`: the bytes on the file are a prefix of the buffer, at their own
  places, and all of it exactly when the loop returns `Ok`.
* `read_exact_at_iff`: when `read_exact_at` is what it says.  Over io_uring a vector takes
  the length of the first read for its own, and the loop with it.
-/
import Vibeio.Fs.Write

namespace Vibeio.Fs

open Vibeio.Driver
open Vibeio.Io
open IoBuf IoBufMut

set_option autoImplicit false

/-! ## The loop -/

/-- Between two awaits, and after the return. -/
inductive ExactState (B : Type) where
  | running (buf : IoBufWithCursor B) (offset : Nat)
  | done (result : Except IoError Unit) (buf : B)

namespace ExactState

variable {B : Type} [IoBuf B]

/-- `while buf.buf_len() > 0`. -/
def loop (buf : IoBufWithCursor B) (offset : Nat) : ExactState B :=
  if 0 < bufLen buf then .running buf offset else .done (.ok ()) buf.intoInner

/-- The body behind the await; `short` is the error for a call that moved nothing. -/
def afterCall (short : IoError) (offset : Nat) (result : Except IoError Nat)
    (returned : IoBufWithCursor B) : ExactState B :=
  match result with
  | .error err => .done (.error err) returned.intoInner
  | .ok n =>
      if n = 0 then .done (.error short) returned.intoInner
      else .loop (returned.advance n) (saturatingAddU64 offset n)

/-- A call after which the loop goes on has moved the cursor. -/
theorem afterCall_running {short : IoError} {offset at_ : Nat} {result : Except IoError Nat}
    {returned c : IoBufWithCursor B} (running : afterCall short offset result returned = .running c at_) :
    returned.cursor < c.cursor := by
  unfold afterCall at running
  split at running
  · cases running
  · split at running
    · cases running
    · rename_i n some_
      unfold loop at running
      split at running
      · cases running
        show returned.cursor < returned.cursor + n
        omega
      · cases running

end ExactState

/-! ## `write_exact_at` -/

/-- A call under way, with the writes that have gone to the file. -/
structure WriteExact (B : Type) where
  file : File
  log : List (Nat × List UInt8)
  state : ExactState B

namespace WriteExact

variable {B : Type} [IoBuf B]

def short : IoError := .custom .unexpectedEof "failed to write whole buffer"

def start (file : File) (buf : B) (offset : Nat) : WriteExact B where
  file := file
  log := []
  state := .loop (.new buf) offset

def next (env : WriteEnv) (s : WriteExact B) : WriteExact B :=
  match s.state with
  | .done _ _ => s
  | .running buf offset =>
      let outcome := s.file.writeAt buf offset env
      { file := s.file.wrote offset outcome.data
        log := s.log ++ [(offset, outcome.data)]
        state := .afterCall short offset outcome.result outcome.buf }

/-- The call after `k` writes. -/
def after (env : Nat → WriteEnv) (s : WriteExact B) : Nat → WriteExact B
  | 0 => s
  | k + 1 => (s.after env k).next (env k)

end WriteExact

/-- The positions a write goes to, with the bytes it puts there. -/
def positions (offset : Nat) : List UInt8 → List (Nat × UInt8)
  | [] => []
  | byte :: rest => (offset, byte) :: positions (offset + 1) rest

/-- All positions written so far. -/
def WriteExact.touched {B : Type} (s : WriteExact B) : List (Nat × UInt8) :=
  s.log.flatMap fun write => positions write.1 write.2

theorem positions_append (offset : Nat) (first second : List UInt8) :
    positions offset (first ++ second) =
      positions offset first ++ positions (offset + first.length) second := by
  induction first generalizing offset with
  | nil => rfl
  | cons byte rest ih =>
      simp only [List.cons_append, positions, ih, List.length_cons]
      rw [show offset + 1 + rest.length = offset + (rest.length + 1) by omega]

theorem mem_positions {offset position : Nat} {data : List UInt8} {byte : UInt8} :
    (position, byte) ∈ positions offset data ↔
      offset ≤ position ∧ data[position - offset]? = some byte := by
  induction data generalizing offset with
  | nil => simp [positions]
  | cons head rest ih =>
      simp only [positions, List.mem_cons, Prod.mk.injEq, ih]
      by_cases here : position = offset
      · subst here
        simp [eq_comm]
      · constructor
        · rintro (⟨same, -⟩ | ⟨later, found⟩)
          · exact absurd same here
          · refine ⟨by omega, ?_⟩
            rw [show position - offset = (position - (offset + 1)) + 1 by omega]
            exact found
        · rintro ⟨later, found⟩
          refine .inr ⟨by omega, ?_⟩
          rw [show position - offset = (position - (offset + 1)) + 1 by omega] at found
          exact found

section WriteLoop

variable {B : Type} [IoBuf B] {file : File} {buf : B} {offset : Nat}

/-- A prefix of `n` bytes of the buffer is on the file and nothing else. -/
structure WriteExact.Wrote (file : File) (buf : B) (offset n : Nat) (s : WriteExact B) : Prop where
  bytes : s.file = file.wrote offset ((content buf).take n)
  touched : s.touched = positions offset ((content buf).take n)

/-- What holds between two writes.  While the loop runs the offset is where the cursor says. -/
def WriteExact.Progress (file : File) (buf : B) (offset : Nat) (s : WriteExact B) : Prop :=
  match s.state with
  | .running c at_ =>
      c.buf = buf ∧ c.cursor < bufLen buf ∧ at_ = offset + c.cursor ∧
        s.Wrote file buf offset c.cursor
  | .done result returned =>
      returned = buf ∧ ∃ n ≤ bufLen buf, s.Wrote file buf offset n ∧ (result = .ok () ↔ n = bufLen buf)

theorem WriteExact.progress_loop {s : WriteExact B} {n : Nat} (within : n ≤ bufLen buf)
    (wrote : s.Wrote file buf offset n) (state : s.state = .loop ⟨buf, n⟩ (offset + n)) :
    s.Progress file buf offset := by
  unfold Progress
  rw [state]
  unfold ExactState.loop
  by_cases more : 0 < bufLen (IoBufWithCursor.mk buf n)
  · rw [if_pos more]
    rw [IoBufWithCursor.bufLen_mk] at more
    exact ⟨rfl, show n < bufLen buf by omega, rfl, wrote⟩
  · rw [if_neg more]
    rw [IoBufWithCursor.bufLen_mk] at more
    have all : n = bufLen buf := by omega
    exact ⟨rfl, n, within, wrote, by simp [all]⟩

/-- The next write goes on where the last one ended. -/
theorem WriteExact.Wrote.next {s : WriteExact B} {c n : Nat} {state : ExactState B}
    (fits : bufLen buf ≤ bufCapacity buf) (within : c < bufLen buf)
    (wrote : s.Wrote file buf offset c) :
    WriteExact.Wrote file buf offset (c + n)
      { file := s.file.wrote (offset + c) ((content (IoBufWithCursor.mk buf c)).take n)
        log := s.log ++ [(offset + c, (content (IoBufWithCursor.mk buf c)).take n)]
        state := state } := by
  have length : ((content buf).take c).length = c := by
    unfold bufCapacity at fits
    simp only [content, List.length_take]
    omega
  have split : (content buf).take (c + n) =
      (content buf).take c ++ (content (IoBufWithCursor.mk buf c)).take n := by
    rw [IoBufWithCursor.content_eq, List.take_add]
  constructor
  · rw [wrote.bytes, split]
    simp only [File.wrote]
    rw [← pwrite_pwrite, length]
  · have touched := wrote.touched
    unfold WriteExact.touched at touched ⊢
    rw [List.flatMap_append, touched, split, positions_append, length]
    simp

theorem WriteExact.Wrote.nothing {s : WriteExact B} {c at_ : Nat} {state : ExactState B}
    (wrote : s.Wrote file buf offset c) :
    WriteExact.Wrote file buf offset c
      { file := s.file.wrote at_ [], log := s.log ++ [(at_, [])], state := state } := by
  refine ⟨?_, ?_⟩
  · simp only [File.wrote, pwrite_nil]
    exact wrote.bytes
  · have touched := wrote.touched
    unfold WriteExact.touched at touched ⊢
    simp [touched, positions]

theorem WriteExact.Progress.next {s : WriteExact B} (fits : bufLen buf ≤ bufCapacity buf)
    (below : offset + bufLen buf < 2 ^ 63) (progress : s.Progress file buf offset) (env : WriteEnv) :
    (s.next env).Progress file buf offset := by
  unfold WriteExact.next
  cases state : s.state with
  | done result returned =>
      simp only
      exact progress
  | running c at_ =>
      obtain ⟨inner, cursor⟩ := c
      simp only [Progress, state] at progress
      obtain ⟨rfl, within, rfl, wrote⟩ := progress
      have spec := writeAt_spec s.file (IoBufWithCursor.mk inner cursor) (offset + cursor) env
      simp only
      generalize s.file.writeAt (IoBufWithCursor.mk inner cursor) (offset + cursor) env = outcome at spec
      obtain ⟨result, returned, data⟩ := outcome
      obtain ⟨rfl, counted, failed⟩ := spec
      cases result with
      | error err =>
          cases failed err rfl
          refine ⟨rfl, cursor, by omega, wrote.nothing, ?_⟩
          simp only [reduceCtorEq, false_iff]
          omega
      | ok n =>
          obtain ⟨rfl, bounded, -⟩ := counted n rfl
          rw [IoBufWithCursor.bufLen_mk] at bounded
          simp only [ExactState.afterCall]
          by_cases nothing : n = 0
          · subst nothing
            rw [if_pos rfl, List.take_zero]
            refine ⟨rfl, cursor, by omega, wrote.nothing, ?_⟩
            simp only [reduceCtorEq, false_iff]
            omega
          · rw [if_neg nothing]
            have moved : saturatingAddU64 (offset + cursor) n = offset + (cursor + n) := by
              unfold saturatingAddU64
              omega
            exact progress_loop (by omega) (wrote.next fits within) (by rw [moved]; rfl)

theorem WriteExact.progress_after (file : File) (env : Nat → WriteEnv) (fits : bufLen buf ≤ bufCapacity buf)
    (below : offset + bufLen buf < 2 ^ 63) (k : Nat) :
    ((WriteExact.start file buf offset).after env k).Progress file buf offset := by
  induction k with
  | zero =>
      refine progress_loop (Nat.zero_le _) ⟨?_, rfl⟩ rfl
      simp [WriteExact.after, start, File.wrote]
  | succ k ih => exact ih.next fits below (env k)

/-- Every write moves the cursor, so the loop has at most as many turns as there are bytes. -/
theorem WriteExact.running_next {s : WriteExact B} {c : IoBufWithCursor B} {at_ : Nat} {e : WriteEnv}
    (running : (s.next e).state = .running c at_) :
    ∃ before offset, s.state = .running before offset ∧ before.cursor < c.cursor := by
  unfold WriteExact.next at running
  cases state : s.state with
  | done result returned =>
      simp only [state] at running
      cases running
  | running before offset =>
      simp only [state] at running
      have moved := ExactState.afterCall_running running
      rw [(writeAt_spec s.file before offset e).kept] at moved
      exact ⟨before, offset, rfl, moved⟩

theorem WriteExact.cursor_ge {env : Nat → WriteEnv} {k : Nat} {c : IoBufWithCursor B} {at_ : Nat}
    (running : ((WriteExact.start file buf offset).after env k).state = .running c at_) :
    k ≤ c.cursor := by
  induction k generalizing c at_ with
  | zero => exact Nat.zero_le _
  | succ k ih =>
      obtain ⟨before, _, earlier, moved⟩ := running_next running
      have := ih earlier
      omega

theorem WriteExact.ends (file : File) (env : Nat → WriteEnv) (fits : bufLen buf ≤ bufCapacity buf)
    (below : offset + bufLen buf < 2 ^ 63) :
    ∃ result, ((WriteExact.start file buf offset).after env (bufLen buf)).state = .done result buf := by
  have progress := progress_after file env fits below (bufLen buf)
  cases state : ((WriteExact.start file buf offset).after env (bufLen buf)).state with
  | running c at_ =>
      have late := cursor_ge state
      simp only [Progress, state] at progress
      omega
  | done result returned =>
      simp only [Progress, state] at progress
      exact ⟨result, by rw [progress.1]⟩

end WriteLoop

theorem Buffer.fits (buf : Buffer) : bufLen buf ≤ bufCapacity buf := by
  cases buf with
  | vec v => exact v.fits
  | array n a => exact (ArrayU8.size a).ge
  | boxed b => exact Nat.le_refl _

namespace ReadExact

variable {B : Type} [IoBufMut B]

def short : IoError := .custom .unexpectedEof "failed to fill whole buffer"

def start (buf : B) (offset : Nat) : ExactState B := .loop (.new buf) offset

def next (file : File) (env : ReadEnv) : ExactState B → ExactState B
  | .done result buf => .done result buf
  | .running buf offset =>
      let answer := file.readAt buf offset env
      .afterCall short offset answer.1 answer.2

/-- The call after `k` reads. -/
def after (file : File) (env : Nat → ReadEnv) (s : ExactState B) : Nat → ExactState B
  | 0 => s
  | k + 1 => next file (env k) (after file env s k)

end ReadExact

section ReadLoop

variable {file : File} {buf : Buffer} {offset : Nat} {limits : Nat → Nat}

/-- How many bytes the file has from the offset on. -/
def File.remaining (file : File) (offset : Nat) : Nat := file.bytes.length - offset

/-- The call returns, `Ok` means that the buffer has its length and holds the bytes of the
file, and a file that has too few is reported as ended. -/
def ReadsExactly (file : File) (buf : Buffer) (offset : Nat) (limits : Nat → Nat) : Prop :=
  ∃ k result returned,
    ReadExact.after file (fun k => .delivers (limits k)) (ReadExact.start buf offset) k =
      .done result returned ∧
    (result = .ok () → bufLen returned = bufLen buf ∧
      content returned = (file.bytes.drop offset).take (bufLen buf)) ∧
    (file.remaining offset < bufLen buf → result = .error ReadExact.short)

theorem Buffer.memory_store (b : Buffer) (data : List UInt8) :
    memory (store b data) = overwrite (memory b) data := by
  cases b <;> rfl

theorem Buffer.capacity_of_not_vec {b : Buffer} (fixed : b.isVec = false) :
    bufCapacity b = bufLen b := by
  cases b with
  | vec v => cases fixed
  | array n a => exact a.size
  | boxed b => rfl

theorem Buffer.setBufInit_of_not_vec {b : Buffer} (fixed : b.isVec = false) (n : Nat) :
    setBufInit b n = b := by
  cases b with
  | vec v => cases fixed
  | array n a => rfl
  | boxed b => rfl

theorem take_overwrite {memory data : List UInt8} (room : data.length ≤ memory.length) :
    (overwrite memory data).take data.length = data := by
  rw [overwrite, List.take_take, Nat.min_eq_left room, List.take_left' rfl]

/-- The reads that leave the length of the buffer alone and ask for no more than it. -/
def File.Steady (file : File) (buf : Buffer) : Prop :=
  file.io = .blocking ∨ (buf.isVec = false ∧ bufCapacity buf < 2 ^ 32)

/-- One read of such a file: the bytes go behind the cursor. -/
theorem readAt_steady {c : IoBufWithCursor Buffer} {at_ limit : Nat} (steady : file.Steady c.buf)
    (more : 0 < bufLen c) :
    file.readAt c at_ (.delivers limit) =
      (.ok (pread file.bytes at_ (bufLen c) limit).length,
        ⟨store c.buf ((memory c.buf).take c.cursor ++ pread file.bytes at_ (bufLen c) limit),
          c.cursor⟩) := by
  obtain ⟨bytes, io, offload, cursor⟩ := file
  rcases steady with blocking | ⟨fixed, small⟩
  · cases blocking
    exact readAt_blocking more
  · cases io with
    | blocking => exact readAt_blocking more
    | completion =>
        have room : bufCapacity c = bufCapacity c.buf - c.cursor := List.length_drop
        have asked : bufCapacity c = bufLen c := by
          rw [room, IoBufWithCursor.bufLen_eq, Buffer.capacity_of_not_vec fixed]
        rw [readAt_completion more (by omega), asked]
        congr 1
        show IoBufWithCursor.mk (setBufInit (store c.buf _) _) c.cursor = _
        rw [Buffer.setBufInit_of_not_vec (by rw [Buffer.isVec_store]; exact fixed)]

/-- What holds between two such reads: what is before the cursor is the file's. -/
def ReadExact.Filled (file : File) (buf : Buffer) (offset : Nat) : ExactState Buffer → Prop
  | .running c at_ =>
      file.Steady c.buf ∧ bufLen c.buf = bufLen buf ∧ c.cursor < bufLen buf ∧
        at_ = offset + c.cursor ∧ c.cursor ≤ file.remaining offset ∧
        (memory c.buf).take c.cursor = (file.bytes.drop offset).take c.cursor
  | .done result returned =>
      (result = .ok () ∧ bufLen returned = bufLen buf ∧ bufLen buf ≤ file.remaining offset ∧
        content returned = (file.bytes.drop offset).take (bufLen buf)) ∨
      (result = .error ReadExact.short ∧ file.remaining offset < bufLen buf)

theorem ReadExact.filled_loop {c : IoBufWithCursor Buffer} (steady : file.Steady c.buf)
    (length : bufLen c.buf = bufLen buf) (within : c.cursor ≤ bufLen buf)
    (available : c.cursor ≤ file.remaining offset)
    (same : (memory c.buf).take c.cursor = (file.bytes.drop offset).take c.cursor) :
    ReadExact.Filled file buf offset (.loop c (offset + c.cursor)) := by
  unfold ExactState.loop
  by_cases more : 0 < bufLen c
  · rw [if_pos more]
    rw [IoBufWithCursor.bufLen_eq] at more
    exact ⟨steady, length, by omega, rfl, available, same⟩
  · rw [if_neg more]
    rw [IoBufWithCursor.bufLen_eq] at more
    have all : c.cursor = bufLen buf := by omega
    refine .inl ⟨rfl, length, by omega, ?_⟩
    show (memory c.buf).take (bufLen c.buf) = _
    rw [length, ← all, same]

/-- A read of nothing with room in the buffer is the end of the file. -/
theorem pread_eq_nil {bytes : List UInt8} {at_ len limit : Nat} (room : 0 < len)
    (nothing : (pread bytes at_ len limit).length = 0) : bytes.length ≤ at_ := by
  simp only [pread, MAX_RW_COUNT, List.length_take, List.length_drop] at nothing
  omega

/-- What a read delivers at a position continues what is before it. -/
theorem take_append_pread (bytes : List UInt8) (offset n len limit : Nat) :
    (bytes.drop offset).take n ++ pread bytes (offset + n) len limit =
      (bytes.drop offset).take (n + (pread bytes (offset + n) len limit).length) := by
  rw [List.take_add, List.drop_drop]
  congr 1
  simp only [pread, List.length_take]
  rw [List.take_eq_take_iff]
  omega

theorem ReadExact.Filled.next {s : ExactState Buffer} {limit : Nat}
    (below : offset + bufLen buf < 2 ^ 63) (filled : ReadExact.Filled file buf offset s) :
    ReadExact.Filled file buf offset (ReadExact.next file (.delivers limit) s) := by
  cases s with
  | done result returned => exact filled
  | running c at_ =>
      obtain ⟨steady, length, within, rfl, available, same⟩ := filled
      have more : 0 < bufLen c := by
        rw [IoBufWithCursor.bufLen_eq]
        omega
      simp only [ReadExact.next, readAt_steady steady more, ExactState.afterCall]
      have bounded := pread_length_le file.bytes (offset + c.cursor) (bufLen c) limit
      by_cases nothing : (pread file.bytes (offset + c.cursor) (bufLen c) limit).length = 0
      · rw [if_pos nothing]
        have ended := pread_eq_nil more nothing
        exact .inr ⟨rfl, by unfold File.remaining; omega⟩
      · rw [if_neg nothing]
        -- the new bytes continue the old ones, in the buffer as in the file
        have joined := take_append_pread file.bytes offset c.cursor (bufLen c) limit
        generalize pread file.bytes (offset + c.cursor) (bufLen c) limit = data at *
        have held : ((memory c.buf).take c.cursor ++ data).length = c.cursor + data.length := by
          have := congrArg List.length same
          simp only [List.length_take, List.length_drop] at this
          have capacity := Buffer.fits c.buf
          unfold bufCapacity at capacity
          rw [List.length_append, List.length_take]
          omega
        have reach : c.cursor + data.length ≤ file.remaining offset := by
          have := congrArg List.length joined
          rw [List.length_append, List.length_take, List.length_take, List.length_drop] at this
          unfold File.remaining at available ⊢
          omega
        have moved : saturatingAddU64 (offset + c.cursor) data.length =
            offset + (c.cursor + data.length) := by
          rw [IoBufWithCursor.bufLen_eq] at bounded
          unfold saturatingAddU64
          omega
        rw [moved]
        have capacity := Buffer.fits c.buf
        rw [IoBufWithCursor.bufLen_eq] at bounded
        refine filled_loop (c := ⟨store c.buf ((memory c.buf).take c.cursor ++ data),
          c.cursor + data.length⟩) ?_ ?_ (by simp only; omega) reach ?_
        · rcases steady with blocking | ⟨fixed, small⟩
          · exact .inl blocking
          · exact .inr ⟨by rw [Buffer.isVec_store]; exact fixed, by rw [Buffer.bufCapacity_store]; exact small⟩
        · rw [Buffer.bufLen_store, length]
        · simp only
          rw [Buffer.memory_store, ← held, take_overwrite (by rw [held]; unfold bufCapacity at capacity; omega),
            held, same, joined]

theorem ReadExact.filled_after (below : offset + bufLen buf < 2 ^ 63) (steady : file.Steady buf)
    (limits : Nat → Nat) (k : Nat) :
    ReadExact.Filled file buf offset
      (ReadExact.after file (fun k => .delivers (limits k)) (ReadExact.start buf offset) k) := by
  induction k with
  | zero => exact filled_loop (c := .new buf) steady rfl (Nat.zero_le _) (Nat.zero_le _) rfl
  | succ k ih => exact ih.next below

theorem ReadExact.steady_cursor_ge (below : offset + bufLen buf < 2 ^ 63) (steady : file.Steady buf)
    {k : Nat} {c : IoBufWithCursor Buffer} {at_ : Nat}
    (running : ReadExact.after file (fun k => .delivers (limits k)) (ReadExact.start buf offset) k =
      .running c at_) : k ≤ c.cursor := by
  induction k generalizing c at_ with
  | zero => exact Nat.zero_le _
  | succ k ih =>
      have filled := filled_after below steady limits k
      rw [ReadExact.after] at running
      cases earlier : ReadExact.after file (fun k => .delivers (limits k)) (ReadExact.start buf offset) k with
      | done result returned =>
          rw [earlier] at running
          cases running
      | running before at_ =>
          rw [earlier] at running filled
          obtain ⟨steadyBefore, length, within, -⟩ := filled
          have more : 0 < bufLen before := by
            rw [IoBufWithCursor.bufLen_eq]
            omega
          have moved := ExactState.afterCall_running running
          rw [readAt_steady steadyBefore more] at moved
          have := ih earlier
          simp only at moved
          omega

theorem readsExactly_of_steady (below : offset + bufLen buf < 2 ^ 63) (steady : file.Steady buf) :
    ReadsExactly file buf offset limits := by
  have filled := ReadExact.filled_after below steady limits (bufLen buf)
  cases state : ReadExact.after file (fun k => .delivers (limits k)) (ReadExact.start buf offset)
      (bufLen buf) with
  | running c at_ =>
      have late := ReadExact.steady_cursor_ge below steady state
      rw [state] at filled
      have := filled.2.2.1
      omega
  | done result returned =>
      rw [state] at filled
      refine ⟨bufLen buf, result, returned, state, ?_, ?_⟩
      · intro success
        rcases filled with ⟨-, length, -, same⟩ | ⟨failed, -⟩
        · exact ⟨length, same⟩
        · rw [success] at failed
          cases failed
      · intro few
        rcases filled with ⟨-, -, enough, -⟩ | ⟨failed, -⟩
        · omega
        · exact failed

/-- What has returned stays so. -/
theorem ReadExact.after_done {env : Nat → ReadEnv} {s : ExactState Buffer} {k : Nat}
    {result : Except IoError Unit} {returned : Buffer}
    (ended : ReadExact.after file env s k = .done result returned) (more : Nat) :
    ReadExact.after file env s (k + more) = .done result returned := by
  induction more with
  | zero => exact ended
  | succ more ih =>
      show ReadExact.next file (env (k + more)) (ReadExact.after file env s (k + more)) = _
      rw [ih]
      rfl

/-- A call with room in the buffer that ends with its first read is judged by that. -/
theorem readsExactly_first {result : Except IoError Unit} {returned : Buffer} (room : 0 < bufLen buf)
    (ended : ReadExact.next file (.delivers (limits 0)) (.running (.new buf) offset) =
      .done result returned) :
    ReadsExactly file buf offset limits ↔
      (result = .ok () → bufLen returned = bufLen buf ∧
        content returned = (file.bytes.drop offset).take (bufLen buf)) ∧
      (file.remaining offset < bufLen buf → result = .error ReadExact.short) := by
  have started : ReadExact.start buf offset = .running (.new buf) offset := if_pos room
  have first : ReadExact.after file (fun k => .delivers (limits k)) (ReadExact.start buf offset) 1 =
      .done result returned := by
    rw [ReadExact.after, ReadExact.after, started]
    exact ended
  constructor
  · rintro ⟨k, result', returned', state, right, few⟩
    cases k with
    | zero =>
        rw [ReadExact.after, started] at state
        cases state
    | succ k =>
        have same := ReadExact.after_done first k
        rw [Nat.add_comm, state] at same
        cases same
        exact ⟨right, few⟩
  · rintro ⟨right, few⟩
    exact ⟨1, result, returned, first, right, few⟩

/-- How many bytes the first read over io_uring delivers: it asks for the capacity. -/
def firstRead (file : File) (buf : Buffer) (offset limit : Nat) : Nat :=
  min (min (min (bufCapacity buf) (limit + 1)) MAX_RW_COUNT) (file.remaining offset)

theorem firstRead_eq (file : File) (buf : Buffer) (offset limit : Nat) :
    firstRead file buf offset limit =
      (pread file.bytes offset (bufCapacity buf) limit).length := by
  simp only [firstRead, pread, File.remaining, List.length_take, List.length_drop]

theorem readsExactly_tooLarge (io : file.io = .completion) (room : 0 < bufLen buf)
    (large : ¬ bufCapacity buf < 2 ^ 32) :
    ReadsExactly file buf offset limits ↔ bufLen buf ≤ file.remaining offset := by
  have asked : bufLen (IoBufWithCursor.new buf) ≠ 0 := by
    show bufLen buf - 0 ≠ 0
    omega
  have refused : ReadAtOp.buildCompletionEntry (IoBufWithCursor.new buf) = .error ReadAtOp.tooLarge :=
    if_neg large
  have ended : ReadExact.next file (.delivers (limits 0)) (.running (.new buf) offset) =
      .done (.error ReadAtOp.tooLarge) buf := by
    simp only [ReadExact.next, File.readAt, if_neg asked, io, ReadAtOp.run]
    rw [refused]
    rfl
  rw [readsExactly_first room ended]
  constructor
  · rintro ⟨-, few⟩
    by_contra less
    cases few (by omega)
  · intro enough
    exact ⟨(fun success => by cases success), fun few => absurd few (by omega)⟩

/-- With room in the buffer, the first read delivers nothing only at the end of the file. -/
theorem firstRead_eq_zero (room : 0 < bufLen buf) (limit : Nat) :
    firstRead file buf offset limit = 0 ↔ file.remaining offset = 0 := by
  have fits := Buffer.fits buf
  unfold firstRead MAX_RW_COUNT
  omega

theorem bufLen_setBufInit_vec {data : List UInt8} (vec : buf.isVec = true)
    (less : data.length ≤ bufCapacity buf) :
    bufLen (setBufInit (store buf data) data.length) = data.length := by
  rw [Buffer.bufLen_setBufInit (by rw [Buffer.bufCapacity_store]; exact less), Buffer.isVec_store, vec,
    if_pos rfl]

/-- A vector read over io_uring: the first read sets its length, and the loop is over. -/
theorem ReadExact.next_vec (io : file.io = .completion) (vec : buf.isVec = true) (room : 0 < bufLen buf)
    (small : bufCapacity buf < 2 ^ 32) (limit : Nat) :
    ∃ result returned,
      ReadExact.next file (.delivers limit) (.running (.new buf) offset) = .done result returned ∧
      ((firstRead file buf offset limit = 0 ∧ result = .error ReadExact.short) ∨
        (firstRead file buf offset limit ≠ 0 ∧ result = .ok () ∧
          bufLen returned = firstRead file buf offset limit ∧
          content returned = (file.bytes.drop offset).take (firstRead file buf offset limit))) := by
  obtain ⟨bytes, _, offload, cursor⟩ := file
  cases io
  rw [firstRead_eq]
  have capacity : bufCapacity (IoBufWithCursor.new buf) = bufCapacity buf := rfl
  have asked : 1 ≤ bufLen (IoBufWithCursor.new buf) := by
    show 1 ≤ bufLen buf - 0
    omega
  have read := @readAt_completion _ _ bytes offload cursor (IoBufWithCursor.new buf) offset limit asked
    (capacity ▸ small)
  rw [capacity] at read
  have bounded := pread_length_le bytes offset (bufCapacity buf) limit
  have prefix_ : pread bytes offset (bufCapacity buf) limit =
      (bytes.drop offset).take (pread bytes offset (bufCapacity buf) limit).length := by
    simp [pread]
  simp only [ReadExact.next, read, ExactState.afterCall]
  generalize pread bytes offset (bufCapacity buf) limit = data at *
  by_cases nothing : data.length = 0
  · rw [if_pos nothing]
    exact ⟨_, _, rfl, .inl ⟨nothing, rfl⟩⟩
  · rw [if_neg nothing]
    have held : bufLen (setBufInit (store buf ([] ++ data)) (0 + data.length)) = data.length := by
      rw [List.nil_append, Nat.zero_add]
      exact bufLen_setBufInit_vec vec bounded
    refine ⟨.ok (), setBufInit (store buf ([] ++ data)) (0 + data.length), ?_,
      .inr ⟨nothing, rfl, held, ?_⟩⟩
    · unfold ExactState.loop
      rw [if_neg]
      · rfl
      · show ¬ 0 < bufLen (setBufInit (store buf ([] ++ data)) (0 + data.length)) - (0 + data.length)
        rw [held]
        omega
    · unfold content
      rw [held, Buffer.memory_setBufInit, Buffer.memory_store, List.nil_append, take_overwrite bounded,
        ← prefix_]

theorem readsExactly_vec (io : file.io = .completion) (vec : buf.isVec = true)
    (room : 0 < bufLen buf) (small : bufCapacity buf < 2 ^ 32) :
    ReadsExactly file buf offset limits ↔
      file.remaining offset = 0 ∨ firstRead file buf offset (limits 0) = bufLen buf := by
  obtain ⟨result, returned, ended, outcome⟩ := @ReadExact.next_vec file buf offset io vec room small (limits 0)
  rw [readsExactly_first room ended, ← firstRead_eq_zero room (limits 0)]
  rcases outcome with ⟨nothing, rfl⟩ | ⟨some_, rfl, length, same⟩
  · exact iff_of_true ⟨(fun success => by cases success), fun _ => rfl⟩ (.inl nothing)
  · constructor
    · rintro ⟨right, -⟩
      exact .inr (length.symm.trans (right rfl).1)
    · rintro (nothing | whole)
      · exact absurd nothing some_
      · refine ⟨fun _ => ⟨length.trans whole, by rw [same, whole]⟩, fun few => ?_⟩
        have reach : firstRead file buf offset (limits 0) ≤ file.remaining offset := Nat.min_le_right _ _
        omega

end ReadLoop

end Vibeio.Fs
