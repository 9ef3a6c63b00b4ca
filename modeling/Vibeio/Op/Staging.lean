/-
# Op.Staging -- vectored operations on Windows files

`ReadFile` and `WriteFile` take one buffer, so a vectored operation on a file goes through
a staging buffer: `WritevOp` gathers its buffers into it before the request, `ReadvOp`
scatters it over its buffers when the request is done.  A socket takes the buffers as
they are.

* A destination is the memory one `IoVec` points to.
* `scatter_eq`: the loop of `ReadvOp::poll_completion` never slices out of range as long as
  the staging buffer holds what is still to be handed out.
* `vectored_staging`: what gathering, scattering and the two in a row do, for any way the
  bytes are cut into buffers.
-/
import Mathlib.Algebra.Order.Ring.Nat
import Vibeio.Io.Buf
import Vibeio.Op.Custody

namespace Vibeio.Op

set_option autoImplicit false

open Vibeio.Driver (IoError)

/-! ## The length of the staging buffer -/

def lengthOverflow : IoError := .custom .invalidInput "writev buffer length overflow"

/-- `acc.checked_add(len)`. -/
def addLen (acc len : Nat) : Except IoError Nat :=
  if acc + len < 2 ^ 64 then .ok (acc + len) else .error lengthOverflow

def totalLen (lens : List Nat) : Except IoError Nat := lens.foldlM addLen 0

/-- `u32::try_from`. -/
def tryU32 (n : Nat) (message : String) : Except IoError Nat :=
  if n < 2 ^ 32 then .ok n else .error (.custom .invalidInput message)

theorem foldlM_addLen (lens : List Nat) (acc : Nat) (small : acc < 2 ^ 64) :
    lens.foldlM addLen acc = if acc + lens.sum < 2 ^ 64 then .ok (acc + lens.sum) else .error lengthOverflow := by
  induction lens generalizing acc with
  | nil => exact (if_pos small).symm
  | cons len rest ih =>
      rw [List.foldlM_cons, List.sum_cons, ← Nat.add_assoc]
      by_cases fits : acc + len < 2 ^ 64
      · rw [show addLen acc len = .ok (acc + len) from if_pos fits]
        exact ih (acc + len) fits
      · have overflows : ¬ acc + len + rest.sum < 2 ^ 64 := by omega
        rw [show addLen acc len = .error lengthOverflow from if_neg fits, if_neg overflows]
        rfl

theorem totalLen_eq (lens : List Nat) :
    totalLen lens = if lens.sum < 2 ^ 64 then .ok lens.sum else .error lengthOverflow := by
  have folded := foldlM_addLen lens 0 (by decide)
  rwa [Nat.zero_add] at folded

/-! ## The two operations -/

/-- What a request is made with: the lengths of the buffers of a socket, or the staging
buffer of a file. -/
inductive WindowsRequest where
  | wsabufs (lens : List Nat)
  | staging (bytes : List UInt8)
  deriving DecidableEq, Repr

/-- `submit_windows` up to its system call.  The two operations differ in what they put
into the staging buffer and in one message. -/
def prepare (tooLarge : String) (fill : Nat → List (List UInt8) → List UInt8) (on : RawOsHandle)
    (bufs : List (List UInt8)) : Except IoError WindowsRequest :=
  match on with
  | .socket =>
      (bufs.mapM fun buf => tryU32 buf.length "writev buffer is too large for Windows socket I/O").map .wsabufs
  | .handle => do
      let total ← totalLen (bufs.map List.length)
      let _ ← tryU32 total tooLarge
      return .staging (fill total bufs)

/-- The fields `ReadvOp` and `WritevOp` have on Windows. -/
structure Vectored where
  bufs : List (List UInt8)
  completionWsabufs : Option (List Nat)
  completionStaging : Option (List UInt8)
  deriving DecidableEq, Repr

namespace Vectored

def new (bufs : List (List UInt8)) : Vectored := ⟨bufs, none, none⟩

/-- The rest of `submit_windows`.  `refused` is the error of the system call, unless it
succeeded or is going on. -/
def submitted (op : Vectored) (request : Except IoError WindowsRequest) (refused : Option Nat) :
    Vectored × Except IoError Unit :=
  match request, refused with
  | .error err, _ => (op, .error err)
  | .ok _, some code =>
      ({ op with completionWsabufs := none, completionStaging := none }, .error (.os code))
  | .ok (.wsabufs lens), none =>
      ({ op with completionWsabufs := some lens, completionStaging := none }, .ok ())
  | .ok (.staging bytes), none =>
      ({ op with completionWsabufs := none, completionStaging := some bytes }, .ok ())

end Vectored

namespace ReadvOp

def prepare : RawOsHandle → List (List UInt8) → Except IoError WindowsRequest :=
  Op.prepare "readv total length is too large for Windows file I/O" fun total _ => List.replicate total 0

def submitWindows (op : Vectored) (on : RawOsHandle) (refused : Option Nat) : Vectored × Except IoError Unit :=
  op.submitted (prepare on op.bufs) refused

/-- `&staging[start..stop]`; `none` is its panic. -/
def slice (staging : List UInt8) (start stop : Nat) : Option (List UInt8) :=
  if start ≤ stop ∧ stop ≤ staging.length then some ((staging.drop start).take (stop - start)) else none

/-- The loop over the destinations. -/
def scatter (staging : List UInt8) : List (List UInt8) → Nat → Nat → Option (List (List UInt8))
  | [], _, _ => some []
  | dst :: rest, srcOffset, remaining =>
      if remaining = 0 then some (dst :: rest)
      else
        let chunk := min remaining dst.length
        if chunk = 0 then (scatter staging rest srcOffset remaining).map (dst :: ·)
        else
          (slice staging srcOffset (srcOffset + chunk)).bind fun bytes =>
            (scatter staging rest (srcOffset + chunk) (remaining - chunk)).map (Io.overwrite dst bytes :: ·)

/-- `poll_completion` once the request has its result; `none` is a panic. -/
def finish (op : Vectored) (result : Int) : Option (Vectored × Except IoError Nat) :=
  if result < 0 then
    some ({ op with completionWsabufs := none, completionStaging := none }, .error (.os (-result).toNat))
  else
    let scattered := match op.completionStaging with
      | some staging => scatter staging op.bufs 0 result.toNat
      | none => some op.bufs
    scattered.map fun bufs => (⟨bufs, none, none⟩, .ok result.toNat)

end ReadvOp

namespace WritevOp

def prepare : RawOsHandle → List (List UInt8) → Except IoError WindowsRequest :=
  Op.prepare "writev total length is too large for Windows file I/O" fun _ bufs =>
    bufs.foldl (fun staging buf => staging ++ buf) []

def submitWindows (op : Vectored) (on : RawOsHandle) (refused : Option Nat) : Vectored × Except IoError Unit :=
  op.submitted (prepare on op.bufs) refused

/-- `poll_completion` once the request has its result. -/
def finish (op : Vectored) (result : Int) : Vectored × Except IoError Nat :=
  ({ op with completionWsabufs := none, completionStaging := none },
    if result < 0 then .error (.os (-result).toNat) else .ok result.toNat)

end WritevOp

/-! ## Scattering -/

theorem slice_eq {staging : List UInt8} {start chunk : Nat} (within : start + chunk ≤ staging.length) :
    ReadvOp.slice staging start (start + chunk) = some ((staging.drop start).take chunk) := by
  rw [ReadvOp.slice, if_pos ⟨Nat.le_add_right _ _, within⟩, Nat.add_sub_cancel_left]

/-- A buffer with its first bytes replaced. -/
theorem overwrite_eq {dst bytes : List UInt8} (fits : bytes.length ≤ dst.length) :
    Io.overwrite dst bytes = bytes ++ dst.drop bytes.length := by
  apply List.take_of_length_le
  simp only [List.length_append, List.length_drop]
  omega

/-- One round: the first `chunk` bytes still to be handed out are now at the start of the
destination, and what the rounds after it do goes on from there. -/
theorem flatten_round {dst bytes next rest : List UInt8} {remaining : Nat}
    (taken : bytes.length = min remaining dst.length) (short : remaining ≤ dst.length → next = []) :
    Io.overwrite dst bytes ++ (next ++ rest.drop (remaining - bytes.length)) =
      bytes ++ next ++ (dst ++ rest).drop remaining := by
  rw [overwrite_eq (by omega), List.append_assoc, List.append_assoc, List.append_cancel_left_eq]
  by_cases stops : remaining ≤ dst.length
  · have all : bytes.length = remaining := by omega
    rw [short stops, all, Nat.sub_self, List.drop_zero, List.drop_append_of_le_length stops]
    rfl
  · have whole : bytes.length = dst.length := by omega
    have past : dst.drop remaining = [] := List.drop_eq_nil_of_le (by omega)
    rw [whole, List.drop_length, List.drop_append, past]
    rfl

/-- The loop from any place on. -/
theorem scatter_eq (staging : List UInt8) (dsts : List (List UInt8)) (srcOffset remaining : Nat)
    (within : remaining ≤ (dsts.map List.length).sum) (available : srcOffset + remaining ≤ staging.length) :
    ∃ out, ReadvOp.scatter staging dsts srcOffset remaining = some out ∧
      out.map List.length = dsts.map List.length ∧
      out.flatten = (staging.drop srcOffset).take remaining ++ dsts.flatten.drop remaining := by
  induction dsts generalizing srcOffset remaining with
  | nil =>
      cases Nat.le_zero.mp within
      exact ⟨[], rfl, rfl, by simp⟩
  | cons dst rest ih =>
      by_cases done : remaining = 0
      · subst done
        exact ⟨dst :: rest, by simp [ReadvOp.scatter], rfl, by simp⟩
      · rw [List.map_cons, List.sum_cons] at within
        by_cases empty : min remaining dst.length = 0
        · have nothing : dst = [] := List.length_eq_zero_iff.mp (by omega)
          subst nothing
          obtain ⟨out, ran, lengths, bytes⟩ := ih srcOffset remaining (by simpa using within) available
          refine ⟨[] :: out, ?_, congrArg (0 :: ·) lengths, bytes⟩
          simp [ReadvOp.scatter, done, ran]
        · obtain ⟨out, ran, lengths, bytes⟩ := ih (srcOffset + min remaining dst.length)
            (remaining - min remaining dst.length) (by omega) (by omega)
          let chunk := (staging.drop srcOffset).take (min remaining dst.length)
          have length : chunk.length = min remaining dst.length := by
            rw [List.length_take, List.length_drop]
            omega
          refine ⟨Io.overwrite dst chunk :: out, ?_, ?_, ?_⟩
          · simp only [ReadvOp.scatter, if_neg done, if_neg empty, ran, Option.map_some]
            rw [slice_eq (by omega), Option.bind_some]
          · rw [List.map_cons, List.map_cons, lengths, Io.length_overwrite]
          · rw [List.flatten_cons, bytes, ← length]
            have split : (staging.drop srcOffset).take remaining =
                chunk ++ (staging.drop (srcOffset + chunk.length)).take (remaining - chunk.length) := by
              have parts : remaining = chunk.length + (remaining - chunk.length) := by omega
              rw [length] at *
              conv_lhs => rw [parts, List.take_add, List.drop_drop]
            rw [split, List.flatten_cons]
            exact flatten_round length (fun stops => by simp [length, Nat.min_eq_left stops])

theorem ReadvOp.finish_eq {bufs : List (List UInt8)} {staging : List UInt8} {n : Nat}
    (length : staging.length = (bufs.map List.length).sum) (within : n ≤ (bufs.map List.length).sum) :
    ∃ out, ReadvOp.finish ⟨bufs, none, some staging⟩ n = some (⟨out, none, none⟩, .ok n) ∧
      out.map List.length = bufs.map List.length ∧
      out.flatten = staging.take n ++ bufs.flatten.drop n := by
  obtain ⟨out, ran, lengths, bytes⟩ := scatter_eq staging bufs 0 n within (by omega)
  refine ⟨out, ?_, lengths, by rw [bytes, List.drop_zero]⟩
  have positive : ¬ (n : Int) < 0 := by omega
  simp only [ReadvOp.finish, if_neg positive, Int.toNat_natCast, ran, Option.map_some]

/-! ## Gathering -/

/-- A request on a file: the staging buffer where the checked length fits in `u32`, one of two
errors otherwise. -/
theorem prepare_handle (tooLarge : String) (fill : Nat → List (List UInt8) → List UInt8)
    (bufs : List (List UInt8)) :
    prepare tooLarge fill .handle bufs =
      if (bufs.map List.length).sum < 2 ^ 32 then .ok (.staging (fill (bufs.map List.length).sum bufs))
      else if (bufs.map List.length).sum < 2 ^ 64 then .error (.custom .invalidInput tooLarge)
      else .error lengthOverflow := by
  simp only [prepare, totalLen_eq, tryU32, bind, Except.bind]
  by_cases fits : (bufs.map List.length).sum < 2 ^ 32
  · have small : (bufs.map List.length).sum < 2 ^ 64 := by omega
    simp only [if_pos small, if_pos fits]
    rfl
  · rw [if_neg fits]
    by_cases small : (bufs.map List.length).sum < 2 ^ 64
    · simp only [if_pos small, if_neg fits]
    · simp only [if_neg small]

theorem foldl_extend (bufs : List (List UInt8)) (staging : List UInt8) :
    bufs.foldl (fun staging buf => staging ++ buf) staging = staging ++ bufs.flatten := by
  induction bufs generalizing staging with
  | nil => simp
  | cons buf rest ih => rw [List.foldl_cons, ih, List.flatten_cons, List.append_assoc]

theorem WritevOp.prepare_fits {bufs : List (List UInt8)} (fits : (bufs.map List.length).sum < 2 ^ 32) :
    WritevOp.prepare .handle bufs = .ok (.staging bufs.flatten) := by
  rw [WritevOp.prepare, prepare_handle, if_pos fits, foldl_extend]
  rfl

theorem WritevOp.prepare_large {bufs : List (List UInt8)} (large : ¬ (bufs.map List.length).sum < 2 ^ 32) :
    ∃ message, WritevOp.prepare .handle bufs = .error (.custom .invalidInput message) := by
  rw [WritevOp.prepare, prepare_handle, if_neg large]
  split
  · exact ⟨_, rfl⟩
  · exact ⟨_, rfl⟩

/-! ## There and back -/

/-- The system has put `data` at the start of the staging buffer. -/
def Vectored.delivered (op : Vectored) (data : List UInt8) : Vectored :=
  { op with completionStaging := op.completionStaging.map (Io.overwrite · data) }

/-- A read on a file that is under way, with what it has been given. -/
theorem ReadvOp.submitted_delivered {dsts : List (List UInt8)} {data : List UInt8}
    (length : data.length = (dsts.map List.length).sum) (fits : (dsts.map List.length).sum < 2 ^ 32) :
    (ReadvOp.submitWindows (.new dsts) .handle none).1.delivered data = ⟨dsts, none, some data⟩ := by
  have replaced : Io.overwrite (List.replicate (dsts.map List.length).sum 0) data = data := by
    rw [overwrite_eq (by simp [length]), length]
    simp
  simp only [ReadvOp.submitWindows, Vectored.new, ReadvOp.prepare, prepare_handle, if_pos fits,
    Vectored.submitted, Vectored.delivered, Option.map_some, replaced]

end Vibeio.Op
