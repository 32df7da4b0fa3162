import Dpe.Lib.Splice
import Dpe.Model.Traits

/-! # Response buffers on machine words

    The trait `ResponseBuffer` with its two implementations, on the words
    of the machine: offsets, ranges and lengths are `usize`, additions are
    checked, and a window is cleared byte by byte.  `ResponseBuffer` of
    `Traits` is what is left of them when every offset is a number. -/

namespace Dpe

open Splice

/-! ## `usize` -/

/-- The widths of a pointer that the language knows. -/
inductive PointerWidth where
  | bits16
  | bits32
  | bits64
  deriving DecidableEq

def PointerWidth.bits : PointerWidth → Nat
  | bits16 => 16
  | bits32 => 32
  | bits64 => 64

variable {p : PointerWidth}

theorem PointerWidth.one_lt (p : PointerWidth) : 1 < 2 ^ p.bits := by
  cases p <;> decide

abbrev Usize (p : PointerWidth) := BitVec p.bits

namespace Usize

def checkedAdd (a b : Usize p) : Option (Usize p) :=
  if a.toNat + b.toNat < 2 ^ p.bits then some (a + b) else none

def saturatingSub (a b : Usize p) : Usize p :=
  if b ≤ a then a - b else 0#p.bits

/-- `a + b` when it fits. -/
theorem checkedAdd_some {a b c : Usize p} (h : checkedAdd a b = some c) :
    c.toNat = a.toNat + b.toNat := by
  unfold checkedAdd at h
  split at h
  · rename_i hlt
    cases h
    exact BitVec.toNat_add_of_lt hlt
  · cases h

theorem checkedAdd_none {a b : Usize p} (h : checkedAdd a b = none) :
    2 ^ p.bits ≤ a.toNat + b.toNat := by
  unfold checkedAdd at h
  split at h
  · cases h
  · rename_i hlt
    exact Nat.le_of_not_lt hlt

/-- The truncated difference of the numbers. -/
theorem toNat_saturatingSub (a b : Usize p) :
    (saturatingSub a b).toNat = a.toNat - b.toNat := by
  unfold saturatingSub
  by_cases h : b ≤ a
  · rw [if_pos h, BitVec.toNat_sub_of_le h]
  · rw [if_neg h, BitVec.toNat_ofNat, Nat.zero_mod,
      Nat.sub_eq_zero_of_le (Nat.le_of_not_le fun hle => h (BitVec.le_def.mpr hle))]

end Usize

/-! ## Slices of bytes -/

/-- A `[u8]`: its length is a `usize`. -/
@[ext] structure ByteSlice (p : PointerWidth) where
  bytes : Bytes
  fits : bytes.length < 2 ^ p.bits
  deriving DecidableEq

namespace ByteSlice

variable (s : ByteSlice p)

def len : Usize p := BitVec.ofNatLT s.bytes.length s.fits

@[simp] theorem toNat_len : s.len.toNat = s.bytes.length := rfl

/-- A range of `s` that lies inside. -/
structure Part where
  start : Nat
  len : Nat
  inside : start + len ≤ s.bytes.length

/-- `get_mut(start..stop)`. -/
def getMut (start stop : Usize p) : Option s.Part :=
  if h : start ≤ stop ∧ stop ≤ s.len then
    some ⟨start.toNat, stop.toNat - start.toNat, by
      have h1 : start.toNat ≤ stop.toNat := BitVec.le_def.mp h.1
      have h2 : stop.toNat ≤ s.bytes.length := BitVec.le_def.mp h.2
      omega⟩
  else none

variable {s}

/-- The bytes of a part. -/
def Part.read (q : s.Part) : ByteSlice p where
  bytes := (s.bytes.drop q.start).take q.len
  fits := by
    rw [List.length_take]
    have hinside := q.inside
    have hfits := s.fits
    omega

/-- `copy_from_slice`.  It panics unless the lengths are the same. -/
def Part.copyFromSlice (q : s.Part) (bytes : ByteSlice p) : ByteSlice p where
  bytes := splice s.bytes q.start (bytes.bytes.take q.len)
  fits := by
    have hinside := q.inside
    rw [length_splice (by rw [List.length_take]; omega)]
    exact s.fits

/-- `get(start..stop)`. -/
def get (s : ByteSlice p) (start stop : Usize p) : Option (ByteSlice p) :=
  (s.getMut start stop).map Part.read

/-- `fill(0)`. -/
def zeroed (s : ByteSlice p) : ByteSlice p where
  bytes := List.replicate s.bytes.length 0
  fits := by
    rw [List.length_replicate]
    exact s.fits

/-- `&s[base..]`. -/
def drop (s : ByteSlice p) (base : Nat) : ByteSlice p where
  bytes := s.bytes.drop base
  fits := by
    rw [List.length_drop]
    exact Nat.lt_of_le_of_lt (Nat.sub_le ..) s.fits

/-- `&[0]`. -/
def zero (p : PointerWidth) : ByteSlice p := ⟨[0], p.one_lt⟩

end ByteSlice

/-! ## The trait -/

/-- What a method that may change the buffer `S` comes to. -/
abbrev BufferOutcome (S : Type) := Except ResponseBufError Unit × S

/-- A closure `FnMut(&[u8]) -> Result<(), ResponseBufError>` over the
    captured state `τ`. -/
abbrev Reader (p : PointerWidth) (τ : Type) :=
  ByteSlice p → τ → Except ResponseBufError Unit × τ

/-- The trait `ResponseBuffer`. -/
class ResponseBufferTrait (S : Type) (p : outParam PointerWidth) where
  clear : S → BufferOutcome S
  writeAt : S → Usize p → ByteSlice p → BufferOutcome S
  readRange : {τ : Type} → S → Usize p → Usize p → Reader p τ → τ →
    Except ResponseBufError Unit × τ
  capacity : S → Usize p

@[ext] structure SliceResponseBuffer (p : PointerWidth) where
  buf : ByteSlice p
  deriving DecidableEq

namespace SliceResponseBuffer

def new (buf : ByteSlice p) : SliceResponseBuffer p := { buf }

def clear (s : SliceResponseBuffer p) : BufferOutcome (SliceResponseBuffer p) :=
  (.ok (), { s with buf := s.buf.zeroed })

def writeAt (s : SliceResponseBuffer p) (offset : Usize p)
    (bytes : ByteSlice p) : BufferOutcome (SliceResponseBuffer p) :=
  match Usize.checkedAdd offset bytes.len with
  | none => (.error .overflow, s)
  | some stop =>
      match s.buf.getMut offset stop with
      | none => (.error .overflow, s)
      | some part => (.ok (), { s with buf := part.copyFromSlice bytes })

def readRange {τ : Type} (s : SliceResponseBuffer p) (start stop : Usize p)
    (f : Reader p τ) (t : τ) : Except ResponseBufError Unit × τ :=
  match s.buf.get start stop with
  | none => (.error .overflow, t)
  | some bytes => f bytes t

def capacity (s : SliceResponseBuffer p) : Usize p := s.buf.len

instance : ResponseBufferTrait (SliceResponseBuffer p) p where
  clear := clear
  writeAt := writeAt
  readRange := readRange
  capacity := capacity

end SliceResponseBuffer

@[ext] structure OffsetResponseBuffer (S : Type) (p : PointerWidth) where
  inner : S
  base : Usize p
  deriving DecidableEq

namespace OffsetResponseBuffer

variable {S : Type} [ResponseBufferTrait S p]

def new (inner : S) (base : Usize p) : OffsetResponseBuffer S p := { inner, base }

def writeAt (s : OffsetResponseBuffer S p) (offset : Usize p)
    (bytes : ByteSlice p) : BufferOutcome (OffsetResponseBuffer S p) :=
  match Usize.checkedAdd s.base offset with
  | none => (.error .overflow, s)
  | some adjusted =>
      match ResponseBufferTrait.writeAt s.inner adjusted bytes with
      | (r, inner) => (r, { s with inner })

def capacity (s : OffsetResponseBuffer S p) : Usize p :=
  Usize.saturatingSub (ResponseBufferTrait.capacity s.inner) s.base

/-- The loop of `clear` from `i` on, with `n` rounds to go. -/
def clearFrom : Nat → Usize p → OffsetResponseBuffer S p →
    BufferOutcome (OffsetResponseBuffer S p)
  | 0, _, s => (.ok (), s)
  | n + 1, i, s =>
      match s.writeAt i (ByteSlice.zero p) with
      | (.ok _, s') => clearFrom n (i + 1) s'
      | (.error e, s') => (.error e, s')

def clear (s : OffsetResponseBuffer S p) : BufferOutcome (OffsetResponseBuffer S p) :=
  clearFrom s.capacity.toNat 0 s

def readRange {τ : Type} (s : OffsetResponseBuffer S p) (start stop : Usize p)
    (f : Reader p τ) (t : τ) : Except ResponseBufError Unit × τ :=
  match Usize.checkedAdd s.base start with
  | none => (.error .overflow, t)
  | some start' =>
      match Usize.checkedAdd s.base stop with
      | none => (.error .overflow, t)
      | some stop' => ResponseBufferTrait.readRange s.inner start' stop' f t

instance : ResponseBufferTrait (OffsetResponseBuffer S p) p where
  clear := clear
  writeAt := writeAt
  readRange := readRange
  capacity := capacity

end OffsetResponseBuffer

/-! ## A caller -/

/-- One call on a buffer; the closures of the reads share the state `τ`. -/
inductive BufferOp (p : PointerWidth) (τ : Type) where
  | clear
  | writeAt (offset : Usize p) (bytes : ByteSlice p)
  | readRange (start stop : Usize p) (f : Reader p τ)
  | capacity

/-- What a call returns. -/
inductive BufferReply (p : PointerWidth) where
  | result (r : Except ResponseBufError Unit)
  | capacity (n : Usize p)
  deriving DecidableEq

variable {S τ : Type} [ResponseBufferTrait S p]

/-- What came of some calls: the replies in their order, and the buffer
    and the state of the closures in the end. -/
@[ext] structure BufferRun (S : Type) (p : PointerWidth) (τ : Type) where
  replies : List (BufferReply p)
  buffer : S
  captured : τ

/-- One call. -/
def BufferOp.call (op : BufferOp p τ) (s : S) (t : τ) : BufferReply p × S × τ :=
  match op with
  | clear =>
      match ResponseBufferTrait.clear s with
      | (r, s') => (.result r, s', t)
  | writeAt offset bytes =>
      match ResponseBufferTrait.writeAt s offset bytes with
      | (r, s') => (.result r, s', t)
  | readRange start stop f =>
      match ResponseBufferTrait.readRange s start stop f t with
      | (r, t') => (.result r, s, t')
  | capacity => (.capacity (ResponseBufferTrait.capacity s), s, t)

/-- A sequence of calls; one that fails does not end it. -/
def BufferOp.runAll : List (BufferOp p τ) → S → τ → BufferRun S p τ
  | [], s, t => ⟨[], s, t⟩
  | op :: ops, s, t =>
      match op.call s t with
      | (r, s', t') =>
          let run := runAll ops s' t'
          { run with replies := r :: run.replies }

end Dpe
