import Dpe.Lib.Der
import Dpe.Proofs.Buffer
import Dpe.X509.Writer

/-! # What encoders append

    An encoder that cannot fail appends one fixed block of bytes,
    whatever the writer holds.  An encoder that can fail does so too when
    it returns, and in any case keeps the shape of the buffer and
    whatever its signing callback keeps.  Contents are only spoken of as
    long as the offset has not passed the capacity: a write that does not
    fit is dropped. -/

namespace Dpe

open Splice Prog Der

/-! ## Appending to a writer -/

/-- `w'` is `w` after appending `bs`. -/
structure Wrote (w : CertWriter) (bs : Bytes) (w' : CertWriter) : Prop where
  shape : w'.certificate.shape = w.certificate.shape
  front : w'.certificate.front = w.certificate.front
  offset : w'.offset = w.offset + bs.length
  bytes : w'.offset ≤ w.certificate.capacity →
    w'.certificate.bytes = splice w.certificate.bytes w.offset bs

/-- The bookkeeping of `w'` is that of `w`. -/
structure Idle (w w' : CertWriter) : Prop where
  csrRange : w'.csrRange = w.csrRange
  backtracks : w'.backtracks = w.backtracks
  savedOffset : w'.savedOffset = w.savedOffset
  trace : w'.trace = w.trace

theorem Wrote.nil (w : CertWriter) : Wrote w [] w where
  shape := rfl
  front := rfl
  offset := rfl
  bytes _ := splice_nil.symm

theorem Wrote.capacity {w w' : CertWriter} {bs : Bytes} (h : Wrote w bs w') :
    w'.certificate.capacity = w.certificate.capacity :=
  ResponseBuffer.capacity_congr h.shape

/-- Two blocks one behind the other. -/
theorem Wrote.trans {w w' w'' : CertWriter} {xs ys : Bytes}
    (h : Wrote w xs w') (h' : Wrote w' ys w'') : Wrote w (xs ++ ys) w'' where
  shape := h'.shape.trans h.shape
  front := h'.front.trans h.front
  offset := by
    rw [h'.offset, h.offset, List.length_append, Nat.add_assoc]
  bytes hcap := by
    have ho := h.offset
    have ho' := h'.offset
    have hcap' : w''.offset ≤ w'.certificate.capacity := by
      rw [h.capacity]
      exact hcap
    rw [h'.bytes hcap', h.bytes (by omega), ho]
    refine splice_append ?_
    rw [ResponseBuffer.length_bytes]
    omega

theorem Idle.refl (w : CertWriter) : Idle w w := ⟨rfl, rfl, rfl, rfl⟩

theorem Idle.trans {w w' w'' : CertWriter} (h : Idle w w') (h' : Idle w' w'') :
    Idle w w'' where
  csrRange := h'.csrRange.trans h.csrRange
  backtracks := h'.backtracks.trans h.backtracks
  savedOffset := h'.savedOffset.trans h.savedOffset
  trace := h'.trace.trans h.trace

/-! ## Encoders that cannot fail -/

/-- `e` appends `bs` and returns its length. -/
def Emits (e : Encode) (bs : Bytes) : Prop :=
  ∀ w, (e.run w).1 = bs.length ∧ Wrote w bs (e.run w).2 ∧ Idle w (e.run w).2

namespace Emits

theorem congr {e : Encode} {bs bs' : Bytes} (h : Emits e bs) (he : bs = bs') :
    Emits e bs' := he ▸ h

theorem none : Emits (pure 0) [] :=
  fun w => ⟨rfl, .nil w, .refl w⟩

theorem nil : Emits (.all []) [] := none

/-- One encoder in front of a list of encoders. -/
theorem cons {e : Encode} {es : List Encode} {xs ys : Bytes} (h : Emits e xs)
    (hs : Emits (.all es) ys) : Emits (.all (e :: es)) (xs ++ ys) := by
  intro w
  obtain ⟨hn, hw, hi⟩ := h w
  obtain ⟨hn', hw', hi'⟩ := hs (e.run w).2
  refine ⟨?_, hw.trans hw', hi.trans hi'⟩
  show (e.run w).1 + ((Encode.all es).run (e.run w).2).1 = _
  rw [hn, hn', List.length_append]

end Emits

namespace CertWriter

/-- **THE ONE WRITE** every encoder is made of. -/
theorem emits_encodeBytes (bs : Bytes) : Emits (encodeBytes bs) bs := by
  intro w
  refine ⟨rfl, ?_, ⟨rfl, rfl, rfl, rfl⟩⟩
  dsimp only [encodeBytes, StateT.run]
  cases hw : w.certificate.writeAt w.offset bs with
  | ok certificate =>
      obtain ⟨hshape, -, hbytes⟩ := ResponseBuffer.writeAt_ok hw
      exact ⟨hshape, ResponseBuffer.writeAt_front hw, rfl, fun _ => hbytes⟩
  | error e =>
      refine ⟨rfl, rfl, rfl, ?_⟩
      intro hcap
      rcases ResponseBuffer.writeAt_error hw with rfl | hlt
      · exact splice_nil.symm
      · exact absurd hcap (Nat.not_le.mpr hlt)

theorem emits_encodeByte (x : UInt8) : Emits (encodeByte x) [x] :=
  emits_encodeBytes [x]

theorem emits_encodeTagField (tag : UInt8) : Emits (encodeTagField tag) [tag] :=
  emits_encodeBytes [tag]

/-- Bytes one at a time. -/
theorem emits_map_encodeByte (bs : Bytes) :
    Emits (.all (bs.map encodeByte)) bs := by
  induction bs with
  | nil => exact .nil
  | cons x xs ih => exact .cons (emits_encodeByte x) ih

/-! ## Length fields -/

theorem getSizeWidth_eq (n : Nat) : getSizeWidth n = lengthWidth n := rfl

theorem sizeBytes_eq (n k : Nat) : sizeBytes n k = bigEndian n k := by
  induction k with
  | zero => rfl
  | succ k ih =>
      have hshift : n >>> (k * 8) = n / 256 ^ k := by
        rw [Nat.shiftRight_eq_div_pow, Nat.mul_comm, Nat.pow_mul]
      rw [sizeBytes, bigEndian, ih, hshift]

/-- The first octet of a long length field. -/
theorem lengthTag_eq {k : Nat} (hpos : 0 < k) (h : k ≤ 4) :
    (0x80 : UInt8) ||| UInt8.ofNat k = UInt8.ofNat (128 + k) := by
  have hk : k = 1 ∨ k = 2 ∨ k = 3 ∨ k = 4 := by omega
  rcases hk with rfl | rfl | rfl | rfl <;> rfl

/-- A size field is the DER length field. -/
theorem emits_encodeSizeField (n : Nat) :
    Emits (encodeSizeField n) (lengthField n) := by
  intro w
  have hwle := lengthWidth_le n
  have hwpos := lengthWidth_pos n
  unfold encodeSizeField
  dsimp only
  by_cases hshort : n < 128
  · have hw : lengthWidth n = 1 := if_pos hshort
    obtain ⟨-, hwrote, hidle⟩ := emits_encodeByte (UInt8.ofNat n) w
    rw [if_pos (by rw [getSizeWidth_eq, hw]; rfl), lengthField, if_pos hshort]
    exact ⟨hw, hwrote, hidle⟩
  · have hw : lengthWidth n ≠ 1 := by
      unfold lengthWidth
      rw [if_neg hshort]
      repeat' split
      all_goals omega
    rw [if_neg (by rw [getSizeWidth_eq]; simpa using hw)]
    have htag := lengthTag_eq (k := lengthWidth n - 1) (by omega) (by omega)
    have hcount : 128 + (lengthWidth n - 1) = 127 + lengthWidth n := by omega
    rw [hcount] at htag
    have hall : Emits (.all
        [encodeByte (0x80 ||| UInt8.ofNat (getSizeWidth n - 1)),
          .all ((sizeBytes n (getSizeWidth n - 1)).map encodeByte)])
        (lengthField n) := by
      refine (Emits.cons (emits_encodeByte _)
        (.cons (emits_map_encodeByte _) .nil)).congr ?_
      rw [lengthField, if_neg hshort, getSizeWidth_eq, htag, sizeBytes_eq,
        List.append_nil, List.singleton_append]
    obtain ⟨-, hwrote, hidle⟩ := hall w
    exact ⟨(lengthField_length n).symm, hwrote, hidle⟩

/-! ## Structures -/

theorem emits_encodeTlv (tag : UInt8) (val : Bytes) :
    Emits (encodeTlv tag val) (Tlv.prim tag val).bytes := by
  refine (Emits.cons (emits_encodeTagField tag) (.cons (emits_encodeSizeField _)
    (.cons (emits_encodeBytes val) .nil))).congr ?_
  simp [Tlv.prim, Tlv.bytes]

theorem emits_encodeOid (oid : Bytes) :
    Emits (encodeOid oid) (Tlv.prim OID_TAG oid).bytes :=
  emits_encodeTlv OID_TAG oid

theorem integerLenLoop_le (len : Nat) (bs : Bytes) :
    integerLenLoop len bs ≤ len + 1 := by
  induction bs generalizing len with
  | nil => exact Nat.le_succ len
  | cons x xs ih =>
      unfold integerLenLoop
      split
      · exact Nat.le_trans (ih (len - 1)) (by omega)
      · split <;> omega

/-- The contents of an INTEGER. -/
def integerBytes (integer : Bytes) : Bytes :=
  let size := getIntegerBytesSize integer false
  (if size > integer.length then [0] else [])
    ++ integer.drop (integer.length - size)

theorem integerBytes_length (integer : Bytes) :
    (integerBytes integer).length = getIntegerBytesSize integer false := by
  have hle : getIntegerBytesSize integer false ≤ integer.length + 1 :=
    integerLenLoop_le integer.length integer
  unfold integerBytes
  dsimp only
  rw [List.length_append, List.length_drop]
  split <;> simp only [List.length_cons, List.length_nil] <;> omega

/-- The length field and the contents of an INTEGER. -/
theorem emits_integerContents (integer : Bytes) :
    Emits (.all [
        encodeSizeField (getIntegerBytesSize integer false),
        if getIntegerBytesSize integer false > integer.length then encodeByte 0
        else pure 0,
        encodeBytes (integer.drop
          (integer.length - getIntegerBytesSize integer false))])
      (lengthField (integerBytes integer).length ++ integerBytes integer) := by
  have hpad : Emits (if getIntegerBytesSize integer false > integer.length
      then encodeByte 0 else pure 0)
      (if getIntegerBytesSize integer false > integer.length then [0] else []) := by
    split
    · exact emits_encodeByte 0
    · exact .none
  refine (Emits.cons (emits_encodeSizeField _) (.cons hpad
    (.cons (emits_encodeBytes _) .nil))).congr ?_
  rw [integerBytes_length, List.append_nil]
  rfl

/-- An INTEGER behind a tag of its own. -/
theorem emits_encodeIntegerBytes (integer : Bytes) :
    Emits (encodeIntegerBytes integer true)
      (Tlv.prim INTEGER_TAG (integerBytes integer)).bytes := by
  have htag : Emits (if true = true then encodeTagField INTEGER_TAG else pure 0)
      [INTEGER_TAG] := emits_encodeTagField INTEGER_TAG
  exact (Emits.cons htag (emits_integerContents integer)).congr rfl

/-- An INTEGER without its tag: the length field and the contents. -/
theorem emits_encodeIntegerBytes_untagged (integer : Bytes) :
    Emits (encodeIntegerBytes integer false)
      (lengthField (integerBytes integer).length ++ integerBytes integer) := by
  have htag : Emits (if false = true then encodeTagField INTEGER_TAG else pure 0)
      [] := .none
  exact (Emits.cons htag (emits_integerContents integer)).congr rfl

end CertWriter

end Dpe
