import Dpe.Lib.Splice
import Dpe.Model.Env

/-! # Response buffers — contents and shape

    What a buffer shows of the slice under it are its `bytes`; where its
    windows begin is its `shape`.  A write splices the bytes and keeps
    the shape, and it fails only where the bytes end. -/

namespace Dpe

open Splice Prog

namespace ResponseBuffer

/-- The length of the slice and the starts of the windows on it. -/
def shape : ResponseBuffer → Nat × List Nat
  | slice buf => (buf.length, [])
  | offset inner base => (inner.shape.1, base :: inner.shape.2)

/-- The slice under a buffer. -/
def root : ResponseBuffer → Bytes
  | slice buf => buf
  | offset inner _ => inner.root

/-- Where a buffer begins in the slice under it. -/
def origin : ResponseBuffer → Nat
  | slice _ => 0
  | offset inner base => inner.origin + base

/-- The bytes of the slice that a buffer does not show. -/
def front (r : ResponseBuffer) : Bytes := r.root.take r.origin

/-- The capacity read off a shape. -/
def shapeCapacity (n : Nat) : List Nat → Nat
  | [] => n
  | base :: bases => shapeCapacity n bases - base

@[simp] theorem length_bytes (r : ResponseBuffer) :
    r.bytes.length = r.capacity := by
  induction r with
  | slice buf => rfl
  | offset inner base ih => rw [bytes, List.length_drop, ih, capacity]

theorem capacity_eq_shape (r : ResponseBuffer) :
    r.capacity = shapeCapacity r.shape.1 r.shape.2 := by
  induction r with
  | slice buf => rfl
  | offset inner base ih => rw [capacity, ih]; rfl

theorem capacity_congr {r r' : ResponseBuffer} (h : r'.shape = r.shape) :
    r'.capacity = r.capacity := by
  rw [capacity_eq_shape, capacity_eq_shape, h]

/-- The buffer under a window keeps its shape when the window does. -/
theorem inner_shape {r inner : ResponseBuffer} {base : Nat}
    (h : r.shape = (offset inner base).shape) : r.inner.shape = inner.shape := by
  cases r with
  | slice buf => cases congrArg Prod.snd h
  | offset inner' base' =>
      obtain ⟨h1, h2⟩ := Prod.ext_iff.mp h
      exact Prod.ext h1 (List.cons.inj h2).2

/-- What a window shows is what the buffer under it shows behind the
    base. -/
theorem bytes_of_window {r inner : ResponseBuffer} {base : Nat}
    (h : r.shape = (offset inner base).shape) :
    r.bytes = r.inner.bytes.drop base := by
  cases r with
  | slice buf => cases congrArg Prod.snd h
  | offset inner' base' =>
      obtain ⟨-, h2⟩ := Prod.ext_iff.mp h
      rw [← (List.cons.inj h2).1]
      rfl

/-- **A WRITE THAT FITS** splices the bytes. -/
theorem writeAt_ok {r r' : ResponseBuffer} {off : Nat} {bs : Bytes}
    (h : r.writeAt off bs = .ok r') :
    r'.shape = r.shape ∧ off + bs.length ≤ r.capacity ∧
      r'.bytes = splice r.bytes off bs := by
  induction r generalizing r' off with
  | slice buf =>
      unfold writeAt at h
      split at h
      · rename_i hle
        cases h
        have hlen := length_splice hle
        refine ⟨?_, hle, rfl⟩
        show ((splice buf off bs).length, ([] : List Nat)) = (buf.length, [])
        rw [hlen]
      · cases h
  | offset inner base ih =>
      unfold writeAt at h
      split at h
      · rename_i inner' hw
        cases h
        obtain ⟨hshape, hle, hbytes⟩ := ih hw
        have hle' : base + off + bs.length ≤ inner.bytes.length := by
          rw [length_bytes]
          exact hle
        refine ⟨?_, ?_, ?_⟩
        · show (inner'.shape.1, base :: inner'.shape.2) = _
          rw [hshape]
          rfl
        · rw [capacity]
          omega
        · show inner'.bytes.drop base = splice (inner.bytes.drop base) off bs
          rw [hbytes, drop_splice hle']
      · cases h

/-- **A WRITE THAT FAILS** would have gone past the end. -/
theorem writeAt_error {r : ResponseBuffer} {off : Nat} {bs : Bytes}
    {e : ResponseBufError} (h : r.writeAt off bs = .error e) :
    bs = [] ∨ r.capacity < off + bs.length := by
  induction r generalizing off with
  | slice buf =>
      unfold writeAt at h
      split at h
      · cases h
      · rename_i hle
        exact .inr (Nat.lt_of_not_le hle)
  | offset inner base ih =>
      unfold writeAt at h
      split at h
      · cases h
      · rename_i e' hw
        rcases ih hw with hnil | hlt
        · exact .inl hnil
        · by_cases hbs : bs = []
          · exact .inl hbs
          · have hpos := List.length_pos_iff.mpr hbs
            right
            rw [capacity]
            omega

/-- A write in the slice under a buffer. -/
theorem writeAt_root {r r' : ResponseBuffer} {off : Nat} {bs : Bytes}
    (h : r.writeAt off bs = .ok r') :
    r'.origin = r.origin ∧ r.origin + off + bs.length ≤ r.root.length ∧
      r'.root = splice r.root (r.origin + off) bs := by
  induction r generalizing r' off with
  | slice buf =>
      unfold writeAt at h
      split at h
      · rename_i hle
        cases h
        have hzero : (slice buf).origin + off = off := Nat.zero_add off
        rw [hzero]
        exact ⟨rfl, hle, rfl⟩
      · cases h
  | offset inner base ih =>
      unfold writeAt at h
      split at h
      · rename_i inner' hw
        cases h
        obtain ⟨horigin, hle, hroot⟩ := ih hw
        rw [← Nat.add_assoc] at hle hroot
        exact ⟨congrArg (· + base) horigin, hle, hroot⟩
      · cases h

/-- **A WRITE STAYS INSIDE** its buffer. -/
theorem writeAt_front {r r' : ResponseBuffer} {off : Nat} {bs : Bytes}
    (h : r.writeAt off bs = .ok r') : r'.front = r.front := by
  obtain ⟨horigin, hle, hroot⟩ := writeAt_root h
  unfold front
  rw [horigin, hroot]
  unfold splice
  rw [List.append_assoc, List.take_append_of_le_length, List.take_take,
    Nat.min_eq_left (Nat.le_add_right ..)]
  rw [List.length_take]
  omega

/-- Reading a span that lies in the buffer. -/
theorem readRange_eq {r : ResponseBuffer} {start stop : Nat}
    (h : start ≤ stop) (hpos : 0 < stop) (hcap : stop ≤ r.capacity) :
    r.readRange start stop = .ok ((r.bytes.drop start).take (stop - start)) := by
  induction r generalizing start stop with
  | slice buf => exact if_pos ⟨h, hcap⟩
  | offset inner base ih =>
      rw [capacity] at hcap
      rw [readRange, ih (by omega) (by omega) (by omega), bytes, List.drop_drop,
        Nat.add_sub_add_left]

end ResponseBuffer

/-! ## What a call cannot touch -/

variable {b : Build} {W : Type} {α : Type}

/-- The part of the environment that no call into the traits reads or
    writes. -/
def Env.own (env : Env b W) :
    State b × ResponseBuffer × List (Vector UInt8 16) :=
  (env.state, env.out, env.drawn)

/-- The part that even the creation of a certificate keeps: it writes to
    the output buffer, and that is all. -/
def Env.settled (env : Env b W) :
    State b × (Nat × List Nat) × List (Vector UInt8 16) :=
  (env.state, env.out.shape, env.drawn)

/-- What keeps the output buffer keeps its shape. -/
theorem Keeps.settled {m : M b W α} (h : Keeps Env.own m) :
    Keeps Env.settled m :=
  h.comp fun own => (own.1, own.2.1.shape, own.2.2)

theorem keeps_callCrypto (f : W → Except CryptoError α × W) :
    Keeps Env.own (callCrypto f : M b W α) := by
  intro env
  refine ⟨?_⟩
  unfold callCrypto
  cases hf : f env.world with
  | mk r w => cases r <;> rfl

theorem keeps_callPlatform (f : W → Except PlatformError α × W) :
    Keeps Env.own (callPlatform f : M b W α) := by
  intro env
  refine ⟨?_⟩
  unfold callPlatform
  cases hf : f env.world with
  | mk r w => cases r <;> rfl

theorem keeps_tryPlatform (f : W → Except PlatformError α × W) :
    Keeps Env.own (tryPlatform f : M b W (Except PlatformError α)) :=
  fun _ => ⟨rfl⟩

theorem keeps_orFail {φ : Type} {π : Env b W → φ} (r : Except DpeErrorCode α) :
    Keeps π (orFail r : M b W α) := by
  intro env
  cases r <;> exact ⟨rfl⟩

theorem keeps_reject {φ : Type} {π : Env b W → φ} (c : Bool)
    (e : DpeErrorCode) : Keeps π (reject c e : M b W PUnit) :=
  Keeps.rejectIf c (Stop.err e)

end Dpe
