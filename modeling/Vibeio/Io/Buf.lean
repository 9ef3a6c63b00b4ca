/-
# Io.Buf -- the buffers an I/O operation is given

`IoBuf` and `IoBufMut` as the source has them.  A buffer is the memory its pointer
and its capacity span, and how much of that counts as its content.

* `VecU8`, `ArrayU8` and `BoxedSlice` are the three owned buffer types.  They differ
  in `setBufInit`: a vector takes the new length, the other two ignore it.
* `Buffer` is any one of the three.
* `IoBufWithCursor` is a buffer of which a part has been dealt with.  Its
  subtractions are on `usize`, so they are right only as long as the cursor is
  within the buffer (`Within`).
-/
import Mathlib.Data.List.Basic

namespace Vibeio.Io

set_option autoImplicit false

/-- `memory` is what the pointer and the capacity span. -/
class IoBuf (B : Type) where
  memory : B → List UInt8
  bufLen : B → Nat

/-- `store` is what the system does through the mutable pointer: it puts bytes at
the start of the memory. -/
class IoBufMut (B : Type) extends IoBuf B where
  store : B → List UInt8 → B
  setBufInit : B → Nat → B

open IoBuf IoBufMut

def bufCapacity {B : Type} [IoBuf B] (b : B) : Nat := (memory b).length

/-- `iobuf_to_slice`: the content of a buffer. -/
def content {B : Type} [IoBuf B] (b : B) : List UInt8 := (memory b).take (bufLen b)

/-- The memory after `data` has been put at its start. -/
def overwrite (memory data : List UInt8) : List UInt8 :=
  (data ++ memory.drop data.length).take memory.length

@[simp] theorem length_overwrite (memory data : List UInt8) :
    (overwrite memory data).length = memory.length := by
  simp only [overwrite, List.length_take, List.length_append, List.length_drop]
  omega

/-! ## `Vec<u8>` -/

structure VecU8 where
  memory : List UInt8
  len : Nat
  fits : len ≤ memory.length
  deriving DecidableEq, Repr

namespace VecU8

/-- `set_len`.  Beyond the capacity it is undefined; no caller goes there. -/
def setLen (v : VecU8) (n : Nat) : VecU8 :=
  if room : n ≤ v.memory.length then { v with len := n, fits := room } else v

/-- `vec![0u8; n]`. -/
def zeroed (n : Nat) : VecU8 where
  memory := List.replicate n 0
  len := n
  fits := by simp

def clear (v : VecU8) : VecU8 := { v with len := 0, fits := Nat.zero_le _ }

instance : IoBufMut VecU8 where
  memory v := v.memory
  bufLen v := v.len
  store v data := { v with memory := overwrite v.memory data, fits := by simp [v.fits] }
  setBufInit v n := v.setLen n

@[simp] theorem bufLen_eq (v : VecU8) : bufLen v = v.len := rfl

@[simp] theorem memory_eq (v : VecU8) : IoBuf.memory v = v.memory := rfl

theorem setBufInit_eq {v : VecU8} {n : Nat} (room : n ≤ v.memory.length) :
    setBufInit v n = { v with len := n, fits := room } := dif_pos room

@[simp] theorem setBufInit_memory (v : VecU8) (n : Nat) : (setBufInit v n).memory = v.memory := by
  simp only [setBufInit, setLen]
  split <;> rfl

theorem length_content (v : VecU8) : (content v).length = v.len := by
  simp [content, v.fits]

end VecU8

/-! ## `[u8; N]` and `Box<[u8]>` -/

structure ArrayU8 (n : Nat) where
  bytes : List UInt8
  size : bytes.length = n
  deriving DecidableEq, Repr

instance (n : Nat) : IoBufMut (ArrayU8 n) where
  memory a := a.bytes
  bufLen _ := n
  store a data := { bytes := overwrite a.bytes data, size := by simp [a.size] }
  setBufInit a _ := a

structure BoxedSlice where
  bytes : List UInt8
  deriving DecidableEq, Repr

instance : IoBufMut BoxedSlice where
  memory b := b.bytes
  bufLen b := b.bytes.length
  store b data := { bytes := overwrite b.bytes data }
  setBufInit b _ := b

/-! ## Any of the three -/

inductive Buffer where
  | vec (v : VecU8)
  | array (n : Nat) (a : ArrayU8 n)
  | boxed (b : BoxedSlice)

instance : IoBufMut Buffer where
  memory
    | .vec v => memory v
    | .array _ a => memory a
    | .boxed b => memory b
  bufLen
    | .vec v => bufLen v
    | .array _ a => bufLen a
    | .boxed b => bufLen b
  store
    | .vec v, data => .vec (store v data)
    | .array n a, data => .array n (store a data)
    | .boxed b, data => .boxed (store b data)
  setBufInit
    | .vec v, n => .vec (setBufInit v n)
    | .array n a, k => .array n (setBufInit a k)
    | .boxed b, n => .boxed (setBufInit b n)

/-- The type has a length of its own, which `set_buf_init` changes. -/
def Buffer.isVec : Buffer → Bool
  | .vec _ => true
  | _ => false

@[simp] theorem Buffer.bufCapacity_store (b : Buffer) (data : List UInt8) :
    bufCapacity (store b data) = bufCapacity b := by
  cases b <;> exact length_overwrite _ _

@[simp] theorem Buffer.bufLen_store (b : Buffer) (data : List UInt8) :
    bufLen (store b data) = bufLen b := by
  cases b with
  | vec _ => rfl
  | array _ _ => rfl
  | boxed b => exact length_overwrite b.bytes data

@[simp] theorem Buffer.isVec_store (b : Buffer) (data : List UInt8) : (store b data).isVec = b.isVec := by
  cases b <;> rfl

@[simp] theorem Buffer.memory_setBufInit (b : Buffer) (n : Nat) :
    memory (setBufInit b n) = memory b := by
  cases b with
  | vec v => exact VecU8.setBufInit_memory v n
  | array _ _ => rfl
  | boxed _ => rfl

theorem Buffer.bufLen_setBufInit {b : Buffer} {n : Nat} (room : n ≤ bufCapacity b) :
    bufLen (setBufInit b n) = if b.isVec then n else bufLen b := by
  cases b with
  | vec v => exact congrArg VecU8.len (VecU8.setBufInit_eq room)
  | array _ _ => rfl
  | boxed _ => rfl

/-! ## `IoBufWithCursor` -/

structure IoBufWithCursor (I : Type) where
  buf : I
  cursor : Nat
  deriving DecidableEq, Repr

namespace IoBufWithCursor

variable {I : Type}

def new (buf : I) : IoBufWithCursor I := { buf := buf, cursor := 0 }

def advance (c : IoBufWithCursor I) (n : Nat) : IoBufWithCursor I := { c with cursor := c.cursor + n }

def intoInner (c : IoBufWithCursor I) : I := c.buf

instance [IoBuf I] : IoBuf (IoBufWithCursor I) where
  memory c := (memory c.buf).drop c.cursor
  bufLen c := bufLen c.buf - c.cursor

/-- Through the pointer of a cursor buffer bytes go to the place of the cursor; what comes
before is left as it is. -/
instance [IoBufMut I] : IoBufMut (IoBufWithCursor I) where
  store c data := { c with buf := store c.buf ((memory c.buf).take c.cursor ++ data) }
  setBufInit c n := { c with buf := setBufInit c.buf (c.cursor + n) }

/-- Neither `buf_len` nor `buf_capacity` subtracts more than there is. -/
structure Within [IoBuf I] (c : IoBufWithCursor I) : Prop where
  len : c.cursor ≤ bufLen c.buf
  capacity : c.cursor ≤ bufCapacity c.buf

theorem bufLen_eq [IoBuf I] (c : IoBufWithCursor I) : bufLen c = bufLen c.buf - c.cursor := rfl

theorem bufLen_mk [IoBuf I] (buf : I) (cursor : Nat) :
    bufLen (IoBufWithCursor.mk buf cursor) = bufLen buf - cursor := rfl

theorem content_eq [IoBuf I] (c : IoBufWithCursor I) :
    content c = (content c.buf).drop c.cursor := by
  show (List.drop c.cursor (memory c.buf)).take (bufLen c.buf - c.cursor) = _
  rw [content, List.drop_take]

end IoBufWithCursor

end Vibeio.Io
