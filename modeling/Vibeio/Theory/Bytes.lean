/-
# Theory.Bytes -- words as bytes, and byte streams as words

A word of `n` bytes has two byte orders.  `leBytes` and `ofLeBytes` are the digits base 256,
least significant first; an `Endian` says whether memory holds them so or the other way
round (`toNeBytes`, `fromNeBytes`), and `toBe`, `fromBe` exchange the bytes of a word on the
machine that needs it.

The second part is framing: a stream of elements cut into frames of width `w`.  `Framed`
is what a reader that collects one element after another keeps true of the frames it has
passed on and the elements it still holds.

* `fromNeBytes_toNeBytes`, `toNeBytes_fromNeBytes`: both round trips, in either byte order.
* `fromBe_fromNeBytes`: from memory through `fromBe`, the byte order of the machine is gone.
* `Framed.push`, `Framed.eq_take`: one more element, and a stream made of known words.
-/
import Mathlib.Data.Nat.ModEq
import Mathlib.Algebra.Order.Ring.Nat
import Mathlib.Tactic.Ring

namespace Vibeio.Theory

set_option autoImplicit false

/-! ## Digits base 256 -/

/-- The `n` low bytes of `value`, least significant first. -/
def leBytes : Nat → Nat → List UInt8
  | 0, _ => []
  | n + 1, value => UInt8.ofNat (value % 256) :: leBytes n (value / 256)

/-- The number whose bytes these are, least significant first. -/
def ofLeBytes : List UInt8 → Nat
  | [] => 0
  | byte :: rest => byte.toNat + 256 * ofLeBytes rest

@[simp] theorem length_leBytes (n value : Nat) : (leBytes n value).length = n := by
  induction n generalizing value with
  | zero => rfl
  | succ n ih => simp [leBytes, ih]

theorem ofLeBytes_lt (bytes : List UInt8) : ofLeBytes bytes < 256 ^ bytes.length := by
  induction bytes with
  | nil => simp [ofLeBytes]
  | cons byte rest ih =>
      have bound : byte.toNat < 256 := byte.toNat_lt
      simp only [ofLeBytes, List.length_cons, pow_succ]
      omega

theorem ofLeBytes_leBytes {n value : Nat} (small : value < 256 ^ n) :
    ofLeBytes (leBytes n value) = value := by
  induction n generalizing value with
  | zero =>
      have : value = 0 := by simpa using small
      simp [leBytes, ofLeBytes, this]
  | succ n ih =>
      have quotient : value / 256 < 256 ^ n := by
        rw [Nat.div_lt_iff_lt_mul (by decide)]
        rwa [pow_succ] at small
      have digit : (UInt8.ofNat (value % 256)).toNat = value % 256 := by
        simp
      rw [leBytes, ofLeBytes, ih quotient, digit]
      omega

theorem leBytes_ofLeBytes (bytes : List UInt8) :
    leBytes bytes.length (ofLeBytes bytes) = bytes := by
  induction bytes with
  | nil => rfl
  | cons byte rest ih =>
      have bound : byte.toNat < 256 := byte.toNat_lt
      have digit : (byte.toNat + 256 * ofLeBytes rest) % 256 = byte.toNat := by omega
      have quotient : (byte.toNat + 256 * ofLeBytes rest) / 256 = ofLeBytes rest := by omega
      simp [leBytes, ofLeBytes, digit, quotient, ih]

/-! ## Words in memory -/

/-- A word of `n` bytes: `u16` is `Word 2`, `u32` and `i32` are `Word 4`. -/
abbrev Word (n : Nat) := BitVec (8 * n)

/-- The byte order of a machine. -/
inductive Endian where
  | little
  | big
  deriving DecidableEq, Repr

/-- Bytes given least significant first, in the order memory holds them. -/
def Endian.arrange : Endian → List UInt8 → List UInt8
  | .little, bytes => bytes
  | .big, bytes => bytes.reverse

@[simp] theorem Endian.arrange_arrange (e : Endian) (bytes : List UInt8) :
    e.arrange (e.arrange bytes) = bytes := by
  cases e <;> simp [arrange]

@[simp] theorem Endian.length_arrange (e : Endian) (bytes : List UInt8) :
    (e.arrange bytes).length = bytes.length := by
  cases e <;> simp [arrange]

/-- `to_ne_bytes`. -/
def toNeBytes (e : Endian) (n : Nat) (word : Word n) : List UInt8 :=
  e.arrange (leBytes n word.toNat)

/-- `from_ne_bytes`. -/
def fromNeBytes (e : Endian) (n : Nat) (bytes : List UInt8) : Word n :=
  BitVec.ofNat (8 * n) (ofLeBytes (e.arrange bytes))

/-- `to_be_bytes`: the bytes of a word on the wire, the most significant first. -/
def toBeBytes (n : Nat) (word : Word n) : List UInt8 := toNeBytes .big n word

/-- `from_be_bytes`. -/
def fromBeBytes (n : Nat) (bytes : List UInt8) : Word n := fromNeBytes .big n bytes

/-- `swap_bytes`. -/
def swapBytes (n : Nat) (word : Word n) : Word n := fromNeBytes .big n (toNeBytes .little n word)

/-- `to_be`. -/
def toBe (e : Endian) (n : Nat) (word : Word n) : Word n :=
  match e with
  | .little => swapBytes n word
  | .big => word

/-- `from_be`. -/
def fromBe (e : Endian) (n : Nat) (word : Word n) : Word n :=
  match e with
  | .little => swapBytes n word
  | .big => word

@[simp] theorem length_toNeBytes (e : Endian) (n : Nat) (word : Word n) :
    (toNeBytes e n word).length = n := by
  simp [toNeBytes]

@[simp] theorem length_toBeBytes (n : Nat) (word : Word n) : (toBeBytes n word).length = n :=
  length_toNeBytes .big n word

@[simp] theorem fromNeBytes_toNeBytes (e : Endian) (n : Nat) (word : Word n) :
    fromNeBytes e n (toNeBytes e n word) = word := by
  have small : word.toNat < 256 ^ n := by
    have := word.isLt
    rwa [pow_mul] at this
  unfold fromNeBytes toNeBytes
  rw [Endian.arrange_arrange, ofLeBytes_leBytes small, BitVec.ofNat_toNat, BitVec.setWidth_eq]

theorem toNeBytes_fromNeBytes (e : Endian) {n : Nat} {bytes : List UInt8}
    (width : bytes.length = n) : toNeBytes e n (fromNeBytes e n bytes) = bytes := by
  have small : ofLeBytes (e.arrange bytes) < 2 ^ (8 * n) := by
    have := ofLeBytes_lt (e.arrange bytes)
    rwa [Endian.length_arrange, width, show 256 = 2 ^ 8 from rfl, ← pow_mul] at this
  have digits := leBytes_ofLeBytes (e.arrange bytes)
  rw [Endian.length_arrange, width] at digits
  unfold toNeBytes fromNeBytes
  rw [BitVec.toNat_ofNat, Nat.mod_eq_of_lt small, digits, Endian.arrange_arrange]

theorem toNeBytes_injective (e : Endian) (n : Nat) : Function.Injective (toNeBytes e n) :=
  Function.LeftInverse.injective (fromNeBytes_toNeBytes e n)

theorem fromBeBytes_toBeBytes (n : Nat) (word : Word n) :
    fromBeBytes n (toBeBytes n word) = word :=
  fromNeBytes_toNeBytes .big n word

theorem toBeBytes_fromBeBytes {n : Nat} {bytes : List UInt8} (width : bytes.length = n) :
    toBeBytes n (fromBeBytes n bytes) = bytes :=
  toNeBytes_fromNeBytes .big width

/-- What `from_be` makes of the bytes in memory does not depend on the machine. -/
theorem fromBe_fromNeBytes (e : Endian) {n : Nat} {bytes : List UInt8}
    (width : bytes.length = n) : fromBe e n (fromNeBytes e n bytes) = fromBeBytes n bytes := by
  cases e with
  | little => simp only [fromBe, swapBytes, toNeBytes_fromNeBytes .little width, fromBeBytes]
  | big => rfl

/-- A word that goes through `to_be` lies in memory as on the wire. -/
theorem toNeBytes_toBe (e : Endian) (n : Nat) (word : Word n) :
    toNeBytes e n (toBe e n word) = toBeBytes n word := by
  cases e with
  | little =>
      have swapped : toBeBytes n word = (toNeBytes .little n word).reverse := rfl
      have again : swapBytes n word = fromNeBytes .little n (toBeBytes n word) := by
        simp [swapBytes, fromNeBytes, Endian.arrange, swapped]
      rw [toBe, again, toNeBytes_fromNeBytes .little (length_toBeBytes n word)]
  | big => rfl

@[simp] theorem fromBe_toBe (e : Endian) (n : Nat) (word : Word n) :
    fromBe e n (toBe e n word) = word := by
  calc fromBe e n (toBe e n word)
      = fromBe e n (fromNeBytes e n (toNeBytes e n (toBe e n word))) := by
        rw [fromNeBytes_toNeBytes]
    _ = fromBeBytes n (toBeBytes n word) := by
        rw [fromBe_fromNeBytes e (length_toNeBytes e n _), toNeBytes_toBe]
    _ = word := fromBeBytes_toBeBytes n word

/-! ## Framing -/

variable {α : Type}

/-- `frames` are the complete frames of `stream`, in order, and `held` what comes after
them. -/
structure Framed (w : Nat) (frames : List (List α)) (held stream : List α) : Prop where
  joins : frames.flatten ++ held = stream
  full : ∀ frame ∈ frames, frame.length = w
  short : held.length < w

theorem Framed.nil {w : Nat} (positive : 0 < w) : Framed w ([] : List (List α)) [] [] :=
  ⟨rfl, by simp, positive⟩

/-- One more element: it is held, unless it completes a frame. -/
theorem Framed.push {w : Nat} {frames : List (List α)} {held stream : List α}
    (framed : Framed w frames held stream) (a : α) :
    if (held ++ [a]).length = w then Framed w (frames ++ [held ++ [a]]) [] (stream ++ [a])
    else Framed w frames (held ++ [a]) (stream ++ [a]) := by
  have joins := framed.joins
  have short := framed.short
  split
  · rename_i complete
    refine ⟨by simp [← joins], ?_, by simpa using by omega⟩
    intro frame member
    rcases List.mem_append.mp member with old | new
    · exact framed.full frame old
    · rw [List.mem_singleton.mp new, complete]
  · rename_i incomplete
    refine ⟨by simp [← joins], framed.full, ?_⟩
    simp only [List.length_append, List.length_singleton] at incomplete ⊢
    omega

theorem length_flatten_of_full {w : Nat} {frames : List (List α)}
    (full : ∀ frame ∈ frames, frame.length = w) : frames.flatten.length = w * frames.length := by
  induction frames with
  | nil => simp
  | cons frame rest ih =>
      have first := full frame (by simp)
      have others := ih fun f member => full f (by simp [member])
      rw [List.flatten_cons, List.length_append, first, others, List.length_cons]
      ring

/-- How many frames there are and what is held follow from the stream. -/
theorem Framed.length {w : Nat} {frames : List (List α)} {held stream : List α}
    (framed : Framed w frames held stream) : frames.length = stream.length / w := by
  have total := congrArg List.length framed.joins
  have short := framed.short
  rw [List.length_append, length_flatten_of_full framed.full] at total
  rw [← total, Nat.mul_add_div (by omega), Nat.div_eq_of_lt short, Nat.add_zero]

theorem Framed.held_eq {w : Nat} {frames : List (List α)} {held stream : List α}
    (framed : Framed w frames held stream) : held = stream.drop (w * (stream.length / w)) := by
  rw [← framed.length, ← framed.joins, ← length_flatten_of_full framed.full, List.drop_left]

/-- A stream that begins a sequence of words has those words as its frames. -/
theorem Framed.eq_take {w : Nat} {frames words : List (List α)} {held stream rest : List α}
    (framed : Framed w frames held stream) (words_full : ∀ word ∈ words, word.length = w)
    (begins : stream ++ rest = words.flatten) : frames = words.take frames.length := by
  obtain ⟨joins, full, short⟩ := framed
  subst joins
  induction frames generalizing words with
  | nil => simp
  | cons frame others ih =>
      have width := full frame (by simp)
      cases words with
      | nil =>
          have := congrArg List.length begins
          simp only [List.flatten_cons, List.flatten_nil, List.length_append,
            List.length_nil] at this
          omega
      | cons word tail =>
          have wordWidth := words_full word (by simp)
          simp only [List.flatten_cons, List.append_assoc] at begins
          obtain ⟨same, tails⟩ := List.append_inj begins (by rw [width, wordWidth])
          rw [List.length_cons, List.take_succ_cons, same]
          congr 1
          exact ih (fun f member => words_full f (by simp [member]))
            (fun f member => full f (by simp [member])) (by simpa using tails)

/-- With the whole sequence behind it the reader holds nothing. -/
theorem Framed.eq_words {w : Nat} {frames words : List (List α)} {held : List α}
    (framed : Framed w frames held words.flatten)
    (words_full : ∀ word ∈ words, word.length = w) : frames = words ∧ held = [] := by
  have total := length_flatten_of_full words_full
  have count := framed.length
  have short := framed.short
  rw [total, Nat.mul_div_cancel_left _ (by omega)] at count
  have none_held := framed.held_eq
  rw [total, Nat.mul_div_cancel_left _ (by omega), ← total, List.drop_length] at none_held
  have prefixed := framed.eq_take words_full (List.append_nil _)
  rw [count, List.take_length] at prefixed
  exact ⟨prefixed, none_held⟩

end Vibeio.Theory
