/-
# Fs.Timestamp -- file times from `statx` and from the standard library

A time of a file is a count of seconds and a count of nanoseconds to be added to it, also
before the epoch.  `Metadata` holds either the answer of `statx`, whose times it converts
itself, or the metadata of the standard library, which takes the two counts as they are.

* A `SystemTime` is what the standard library makes of it on this platform: an `i64` of
  seconds and less than 10^9 nanoseconds.  `instant` is where it lies.
* `instant_checkedAdd`, `instant_checkedSub`: the arithmetic of the standard library,
  where it does not overflow, is that of the instants.
* `statx_times_agree_iff`: the conversion is right from the epoch on.  Before it the
  nanoseconds are subtracted where they had to be added, so it is right for whole seconds
  only, the very first one left out, whose negation overflows.
-/
import Mathlib.Algebra.Order.Ring.Int
import Mathlib.Data.Set.Defs
import Vibeio.Driver.Basic

namespace Vibeio.Fs

set_option autoImplicit false

open Vibeio.Driver (IoError)

/-! ## Instants of the standard library -/

def nanosPerSec : Nat := 1000000000

theorem nanosPerSec_eq : nanosPerSec = 1000000000 := rfl

abbrev I64 : Type := { x : Int // -2 ^ 63 ≤ x ∧ x < 2 ^ 63 }

/-- The result of an operation on `i64` under a check for overflow. -/
def checkI64 (x : Int) : Option I64 := if fits : -2 ^ 63 ≤ x ∧ x < 2 ^ 63 then some ⟨x, fits⟩ else none

theorem checkI64_eq_some {x : Int} {y : I64} (checked : checkI64 x = some y) : y.1 = x := by
  unfold checkI64 at checked
  split at checked
  · cases checked
    rfl
  · cases checked

theorem checkI64_of_fits {x : Int} (fits : -2 ^ 63 ≤ x ∧ x < 2 ^ 63) : checkI64 x = some ⟨x, fits⟩ :=
  dif_pos fits

/-- `x as u64`. -/
def I64.asU64 (x : I64) : Nat := (x.1 % 2 ^ 64).toNat

theorem I64.asU64_of_nonneg {x : I64} (nonneg : 0 ≤ x.1) : (x.asU64 : Int) = x.1 := by
  obtain ⟨x, low, high⟩ := x
  simp only [I64.asU64] at *
  omega

structure Duration where
  secs : Nat
  nanos : Fin nanosPerSec
  deriving DecidableEq, Repr

namespace Duration

/-- `Duration::new`; `none` is its panic. -/
def new (secs nanos : Nat) : Option Duration :=
  if subsec : nanos < nanosPerSec then some ⟨secs, nanos, subsec⟩
  else
    (addU64 secs (nanos / nanosPerSec)).map fun secs =>
      ⟨secs, nanos % nanosPerSec, Nat.mod_lt _ (by decide)⟩

theorem new_of_subsec {secs nanos : Nat} (subsec : nanos < nanosPerSec) :
    new secs nanos = some ⟨secs, nanos, subsec⟩ := dif_pos subsec

def length (d : Duration) : Int := d.secs * nanosPerSec + d.nanos

end Duration

/-- `Timespec` under the standard library's `SystemTime`. -/
structure SystemTime where
  tvSec : I64
  tvNsec : Fin nanosPerSec
  deriving DecidableEq

namespace SystemTime

/-- Nanoseconds since the epoch. -/
def instant (t : SystemTime) : Int := t.tvSec.1 * nanosPerSec + t.tvNsec

def unixEpoch : SystemTime := ⟨⟨0, by decide⟩, ⟨0, by decide⟩⟩

@[simp] theorem unixEpoch_tvSec : unixEpoch.tvSec.1 = 0 := rfl

@[simp] theorem unixEpoch_tvNsec : unixEpoch.tvNsec.1 = 0 := rfl

/-- `Timespec::new`. -/
def new (tvSec : I64) (tvNsec : Nat) : Except IoError SystemTime :=
  if subsec : tvNsec < nanosPerSec then .ok ⟨tvSec, tvNsec, subsec⟩
  else .error (.custom .invalidData "invalid timestamp")

/-- `checked_add_duration`. -/
def checkedAdd (t : SystemTime) (d : Duration) : Option SystemTime :=
  (checkI64 (t.tvSec.1 + d.secs)).bind fun secs =>
    if within : t.tvNsec.1 + d.nanos.1 < nanosPerSec then some ⟨secs, t.tvNsec.1 + d.nanos.1, within⟩
    else
      (checkI64 (secs.1 + 1)).map fun secs =>
        ⟨secs, t.tvNsec.1 + d.nanos.1 - nanosPerSec, by omega⟩

/-- `checked_sub_duration`. -/
def checkedSub (t : SystemTime) (d : Duration) : Option SystemTime :=
  (checkI64 (t.tvSec.1 - d.secs)).bind fun secs =>
    if enough : d.nanos.1 ≤ t.tvNsec.1 then some ⟨secs, t.tvNsec.1 - d.nanos.1, by omega⟩
    else
      (checkI64 (secs.1 - 1)).map fun secs =>
        ⟨secs, t.tvNsec.1 + nanosPerSec - d.nanos.1, by omega⟩

theorem instant_checkedAdd {t u : SystemTime} {d : Duration} (added : t.checkedAdd d = some u) :
    u.instant = t.instant + d.length := by
  simp only [checkedAdd, Option.bind_eq_some_iff] at added
  obtain ⟨secs, checked, carried⟩ := added
  have sum := checkI64_eq_some checked
  have unit := nanosPerSec_eq
  split at carried
  · cases carried
    simp only [instant, Duration.length, nanosPerSec_eq]
    omega
  · rename_i carries
    obtain ⟨next, carry, rfl⟩ := Option.map_eq_some_iff.mp carried
    have sum' := checkI64_eq_some carry
    simp only [instant, Duration.length, nanosPerSec_eq]
    omega

theorem instant_checkedSub {t u : SystemTime} {d : Duration} (taken : t.checkedSub d = some u) :
    u.instant = t.instant - d.length := by
  simp only [checkedSub, Option.bind_eq_some_iff] at taken
  obtain ⟨secs, checked, borrowed⟩ := taken
  have difference := checkI64_eq_some checked
  have unit := nanosPerSec_eq
  split at borrowed
  · rename_i enough
    cases borrowed
    simp only [instant, Duration.length, nanosPerSec_eq]
    omega
  · have subsec := d.nanos.isLt
    obtain ⟨next, borrow, rfl⟩ := Option.map_eq_some_iff.mp borrowed
    have difference' := checkI64_eq_some borrow
    simp only [instant, Duration.length, nanosPerSec_eq]
    omega

/-- The two counts are the quotient and the remainder of the instant. -/
theorem instant_injective {t u : SystemTime} (same : t.instant = u.instant) : t = u := by
  obtain ⟨⟨s, sFits⟩, ⟨n, nFits⟩⟩ := t
  obtain ⟨⟨s', sFits'⟩, ⟨n', nFits'⟩⟩ := u
  simp only [instant, nanosPerSec_eq] at same nFits nFits'
  have seconds : s = s' := by omega
  have nanos : n = n' := by omega
  subst seconds nanos
  rfl

end SystemTime

/-! ## `Metadata` -/

/-- `libc::statx_timestamp`. -/
structure StatxTimestamp where
  tvSec : I64
  tvNsec : Nat
  width : tvNsec < 2 ^ 32
  deriving DecidableEq

namespace StatxTimestamp

/-- The time a file's counts stand for: the nanoseconds are added, whatever the sign of
the seconds. -/
def instant (ts : StatxTimestamp) : Int := ts.tvSec.1 * nanosPerSec + ts.tvNsec

/-- The order of the pair of counts. -/
def Before (a b : StatxTimestamp) : Prop :=
  a.tvSec.1 < b.tvSec.1 ∨ a.tvSec.1 = b.tvSec.1 ∧ a.tvNsec < b.tvNsec

end StatxTimestamp

/-- `none` is an overflow or a panic. -/
def statxTimestampToSystemTime (ts : StatxTimestamp) : Option (Except IoError SystemTime) :=
  let secs := ts.tvSec
  let nanos := ts.tvNsec
  if 0 ≤ secs.1 then
    (Duration.new secs.asU64 nanos).bind fun duration =>
      (SystemTime.unixEpoch.checkedAdd duration).map .ok
  else
    (checkI64 (-secs.1)).bind fun negated =>
      (Duration.new negated.asU64 nanos).map fun duration =>
        match SystemTime.unixEpoch.checkedSub duration with
        | some time => .ok time
        | none => .error (.custom .invalidData "invalid statx timestamp")

inductive FileTime where
  | accessed
  | created
  | modified
  deriving DecidableEq, Repr

/-- The times in an answer of `statx`, and whether its mask has `STATX_BTIME`. -/
structure Statx where
  stxBtime : Bool
  atime : StatxTimestamp
  btime : StatxTimestamp
  mtime : StatxTimestamp

def Statx.time (st : Statx) : FileTime → StatxTimestamp
  | .accessed => st.atime
  | .created => st.btime
  | .modified => st.mtime

/-- The standard library fills its metadata from `statx` too. -/
inductive Metadata where
  | statx (st : Statx)
  | std (md : Statx)

namespace Metadata

/-- The standard library looks at the mask before it gives the time of creation. -/
def time : Metadata → FileTime → Option (Except IoError SystemTime)
  | .statx st, which => statxTimestampToSystemTime (st.time which)
  | .std md, which =>
      if which = .created ∧ md.stxBtime = false then
        some (.error (.custom .unsupported "creation time is not available for the filesystem"))
      else some (SystemTime.new (md.time which).tvSec (md.time which).tvNsec)

def accessed (md : Metadata) : Option (Except IoError SystemTime) := md.time .accessed

def created (md : Metadata) : Option (Except IoError SystemTime) := md.time .created

def modified (md : Metadata) : Option (Except IoError SystemTime) := md.time .modified

end Metadata

section Conversion

variable {ts : StatxTimestamp}

/-- Where the counts are those of an instant, the standard library gives it. -/
theorem SystemTime.new_eq (subsec : ts.tvNsec < nanosPerSec) :
    SystemTime.new ts.tvSec ts.tvNsec = .ok ⟨ts.tvSec, ts.tvNsec, subsec⟩ := dif_pos subsec

theorem statx_of_nonneg (subsec : ts.tvNsec < nanosPerSec) (nonneg : 0 ≤ ts.tvSec.1) :
    statxTimestampToSystemTime ts = some (.ok ⟨ts.tvSec, ts.tvNsec, subsec⟩) := by
  have secs : checkI64 (SystemTime.unixEpoch.tvSec.1 + (ts.tvSec.asU64 : Int)) = some ts.tvSec := by
    rw [I64.asU64_of_nonneg nonneg, SystemTime.unixEpoch_tvSec, Int.zero_add]
    exact checkI64_of_fits ts.tvSec.2
  have added : SystemTime.unixEpoch.checkedAdd ⟨ts.tvSec.asU64, ts.tvNsec, subsec⟩ =
      some ⟨ts.tvSec, ts.tvNsec, subsec⟩ := by
    simp only [SystemTime.checkedAdd, secs, Option.bind_some, SystemTime.unixEpoch_tvNsec, Nat.zero_add,
      dif_pos subsec]
  unfold statxTimestampToSystemTime
  rw [if_pos nonneg, Duration.new_of_subsec subsec, Option.bind_some, added]
  rfl

/-- Before the epoch the conversion takes the nanoseconds off. -/
theorem statx_of_negative (subsec : ts.tvNsec < nanosPerSec) (negative : ts.tvSec.1 < 0)
    (room : -2 ^ 63 < ts.tvSec.1) :
    ∃ time, statxTimestampToSystemTime ts = some (.ok time) ∧
      time.instant = ts.tvSec.1 * nanosPerSec - ts.tvNsec := by
  have fits : -2 ^ 63 ≤ -ts.tvSec.1 ∧ -ts.tvSec.1 < 2 ^ 63 := by omega
  let duration : Duration := ⟨I64.asU64 ⟨-ts.tvSec.1, fits⟩, ts.tvNsec, subsec⟩
  have secs : (duration.secs : Int) = -ts.tvSec.1 := by
    have nonneg : 0 ≤ -ts.tvSec.1 := by omega
    exact @I64.asU64_of_nonneg ⟨-ts.tvSec.1, fits⟩ nonneg
  have converted : statxTimestampToSystemTime ts = some (match SystemTime.unixEpoch.checkedSub duration with
      | some time => .ok time
      | none => .error (.custom .invalidData "invalid statx timestamp")) := by
    unfold statxTimestampToSystemTime
    rw [if_neg (Int.not_le.mpr negative), checkI64_of_fits fits, Option.bind_some,
      Duration.new_of_subsec subsec]
    rfl
  have possible : SystemTime.unixEpoch.checkedSub duration ≠ none := by
    have whole : checkI64 (SystemTime.unixEpoch.tvSec.1 - duration.secs) = some ts.tvSec := by
      have same : SystemTime.unixEpoch.tvSec.1 - duration.secs = ts.tvSec.1 := by
        rw [secs]
        simp [SystemTime.unixEpoch]
      rw [same]
      exact checkI64_of_fits ts.tvSec.2
    have borrow : checkI64 (ts.tvSec.1 - 1) = some ⟨ts.tvSec.1 - 1, by omega⟩ := checkI64_of_fits (by omega)
    simp only [SystemTime.checkedSub, whole, Option.bind_some, borrow, Option.map_some]
    split <;> exact Option.some_ne_none _
  obtain ⟨time, taken⟩ := Option.ne_none_iff_exists'.mp possible
  refine ⟨time, by rw [converted, taken], ?_⟩
  rw [SystemTime.instant_checkedSub taken]
  simp only [SystemTime.instant, SystemTime.unixEpoch, Duration.length, secs, duration, nanosPerSec_eq]
  omega

/-- The negation of the smallest number of seconds overflows. -/
theorem statx_of_first (first : ts.tvSec.1 = -2 ^ 63) : statxTimestampToSystemTime ts = none := by
  have overflows : checkI64 (-ts.tvSec.1) = none := dif_neg (by omega)
  have negative : ¬ 0 ≤ ts.tvSec.1 := by omega
  simp [statxTimestampToSystemTime, negative, overflows]

end Conversion

/-- What is asked of the conversion on the timestamps of `S`: no overflow and no panic, the
instant that is meant, the same as the standard library reports, and with it the order. -/
structure ConvertsRight (S : Set StatxTimestamp) : Prop where
  total : ∀ ts ∈ S, statxTimestampToSystemTime ts ≠ none
  instant : ∀ ts ∈ S, ∀ time, statxTimestampToSystemTime ts = some (.ok time) → time.instant = ts.instant
  std : ∀ ts ∈ S, ∀ time, statxTimestampToSystemTime ts = some (.ok time) →
    ∀ md which, Statx.time md which = ts → (which = .created → md.stxBtime = true) →
      (Metadata.std md).time which = some (.ok time)
  monotone : ∀ a ∈ S, ∀ b ∈ S, a.Before b → ∀ early late, statxTimestampToSystemTime a = some (.ok early) →
    statxTimestampToSystemTime b = some (.ok late) → early.instant < late.instant

/-- From the epoch on, or a whole number of seconds other than the smallest. -/
def StatxTimestamp.Convertible (ts : StatxTimestamp) : Prop :=
  0 ≤ ts.tvSec.1 ∨ -2 ^ 63 < ts.tvSec.1 ∧ ts.tvNsec = 0

theorem StatxTimestamp.instant_lt {a b : StatxTimestamp} (subsec : a.tvNsec < nanosPerSec)
    (before : a.Before b) : a.instant < b.instant := by
  simp only [StatxTimestamp.instant, nanosPerSec_eq] at *
  obtain sooner | ⟨same, sooner⟩ := before <;> omega

/-- On a timestamp it can convert, the conversion gives the very pair of counts. -/
theorem statx_of_convertible {ts : StatxTimestamp} (subsec : ts.tvNsec < nanosPerSec)
    (convertible : ts.Convertible) :
    statxTimestampToSystemTime ts = some (.ok ⟨ts.tvSec, ts.tvNsec, subsec⟩) := by
  by_cases nonneg : 0 ≤ ts.tvSec.1
  · exact statx_of_nonneg subsec nonneg
  · obtain ⟨room, whole⟩ := convertible.resolve_left nonneg
    obtain ⟨time, converted, lies⟩ := statx_of_negative subsec (by omega) room
    rw [converted]
    congr 2
    refine SystemTime.instant_injective (lies.trans ?_)
    simp only [SystemTime.instant, whole]
    omega

/-- **The times of `statx` are those of the standard library** on a set of timestamps if and
only if none of them lies before the epoch with a part of a second, or is the first second
of all. -/
theorem statx_times_agree_iff (S : Set StatxTimestamp) (valid : ∀ ts ∈ S, ts.tvNsec < nanosPerSec) :
    ConvertsRight S ↔ ∀ ts ∈ S, ts.Convertible := by
  constructor
  · intro right ts member
    by_contra outside
    simp only [StatxTimestamp.Convertible, not_or, not_and, Int.not_le] at outside
    obtain ⟨negative, part⟩ := outside
    by_cases room : -2 ^ 63 < ts.tvSec.1
    · obtain ⟨time, converted, lies⟩ := statx_of_negative (valid ts member) negative room
      have meant := right.instant ts member time converted
      have nanos := part room
      rw [lies] at meant
      simp only [StatxTimestamp.instant] at meant
      omega
    · exact right.total ts member (statx_of_first (by have := ts.tvSec.2; omega))
  · intro convertible
    have converts : ∀ ts, ts ∈ S → ∀ time, statxTimestampToSystemTime ts = some (.ok time) →
        ∃ subsec : ts.tvNsec < nanosPerSec, time = ⟨ts.tvSec, ts.tvNsec, subsec⟩ := by
      intro ts member time converted
      rw [statx_of_convertible (valid ts member) (convertible ts member)] at converted
      cases converted
      exact ⟨valid ts member, rfl⟩
    refine ⟨?_, ?_, ?_, ?_⟩
    · intro ts member
      rw [statx_of_convertible (valid ts member) (convertible ts member)]
      exact Option.some_ne_none _
    · intro ts member time converted
      obtain ⟨subsec, rfl⟩ := converts ts member time converted
      rfl
    · rintro ts member time converted md which rfl recorded
      obtain ⟨subsec, rfl⟩ := converts _ member time converted
      have shown : ¬ (which = .created ∧ md.stxBtime = false) := by
        rintro ⟨created, missing⟩
        rw [recorded created] at missing
        cases missing
      simp only [Metadata.time, if_neg shown, SystemTime.new_eq subsec]
    · intro a memberA b memberB before early late first second
      obtain ⟨subsecA, rfl⟩ := converts a memberA early first
      obtain ⟨subsecB, rfl⟩ := converts b memberB late second
      exact StatxTimestamp.instant_lt subsecA before

/-- One second before the epoch. -/
theorem whole_second_converts : ConvertsRight {ts | ts = ⟨⟨-1, by decide⟩, 0, by decide⟩} := by
  refine (statx_times_agree_iff _ ?_).mpr ?_
  · rintro ts rfl
    decide
  · rintro ts rfl
    exact .inr ⟨by decide, rfl⟩

/-- Half a second before the epoch comes out as one and a half. -/
theorem half_second_off : ¬ ConvertsRight {ts | ts.tvNsec < nanosPerSec} := by
  intro right
  let half : StatxTimestamp := ⟨⟨-1, by decide⟩, 500000000, by decide⟩
  have subsec : half.tvNsec < nanosPerSec := by decide
  obtain ⟨time, converted, lies⟩ := statx_of_negative subsec (by decide) (by decide)
  have meant := right.instant half subsec time converted
  rw [lies] at meant
  revert meant
  decide

end Vibeio.Fs
