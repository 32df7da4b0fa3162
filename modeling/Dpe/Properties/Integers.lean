import Dpe.Lib.Integer
import Dpe.Proofs.Writer

/-! # Integers — the one minimal form of every number

    The size of an INTEGER and its octets come from two pieces of code: a
    loop that counts, and an offset into the bytes.  Both find the bytes
    with their leading zeros taken off and, where the first bit is set, a
    zero octet in front, and that is the minimal form of the number. -/

namespace Dpe

open Der

namespace CertWriter

/-! ## The loop -/

/-- The test for the first bit. -/
theorem firstBit_eq (x : UInt8) : (x &&& 0x80 != 0) = !decide (x.toNat < 128) := by
  have hall : ∀ n < 256, (UInt8.ofNat n &&& 0x80 != 0)
      = !decide ((UInt8.ofNat n).toNat < 128) := by decide +kernel
  have hx := hall x.toNat x.toNat_lt
  rw [UInt8.ofNat_toNat] at hx
  exact hx

/-- The loop counts off the leading zeros and counts in the zero octet
    that keeps the sign. -/
theorem integerLenLoop_eq (n : Nat) {integer : Bytes} (h : integer ≠ []) :
    integerLenLoop (n + integer.length) integer
      = n + (padSign (stripZeros integer)).length := by
  induction integer using stripZeros.induct with
  | case1 => exact absurd rfl h
  | case2 x =>
      rw [stripZeros, padSign, integerLenLoop, firstBit_eq]
      by_cases hx : x.toNat < 128
      · simp [hx]
      · simp [hx]
  | case3 y rest ih =>
      have hnext : n + (0 :: y :: rest).length - 1 = n + (y :: rest).length := by
        simp only [List.length_cons]
        omega
      rw [stripZeros, if_pos rfl, ← ih (List.cons_ne_nil _ _), ← hnext]
      rfl
  | case4 x y rest hx =>
      have hzero : (x == 0 && !(y :: rest).isEmpty) = false := by simp [hx]
      rw [stripZeros, if_neg hx, padSign, integerLenLoop, hzero, firstBit_eq]
      by_cases hlow : x.toNat < 128
      · simp [hlow]
      · simp [hlow]
        omega

/-- The octets that are written are the stripped and padded ones. -/
theorem integerBytes_eq {integer : Bytes} (h : integer ≠ []) :
    integerBytes integer = padSign (stripZeros integer) := by
  have hsize : getIntegerBytesSize integer false
      = (padSign (stripZeros integer)).length := by
    have hloop := integerLenLoop_eq 0 h
    rw [Nat.zero_add, Nat.zero_add] at hloop
    exact hloop
  obtain ⟨k, hk⟩ := stripZeros_append integer
  have hlen : integer.length = k + (stripZeros integer).length := by
    conv_lhs => rw [hk]
    rw [List.length_append, List.length_replicate]
  have hdrop : ∀ n, integer.drop n
      = (List.replicate k 0).drop n ++ (stripZeros integer).drop (n - k) := by
    intro n
    conv_lhs => rw [hk]
    rw [List.drop_append, List.length_replicate]
  unfold integerBytes
  dsimp only
  rw [hsize, hdrop]
  cases hs : stripZeros integer with
  | nil => exact absurd hs (stripZeros_ne_nil h)
  | cons x xs =>
      rw [hs] at hlen
      rw [padSign]
      by_cases hx : x.toNat < 128
      · -- the octets fit, and the offset is the number of zeros
        rw [if_pos hx, if_neg (by omega), hlen, Nat.add_sub_cancel, Nat.sub_self]
        simp
      · rw [if_neg hx, List.length_cons]
        cases k with
        | zero =>
            rw [if_pos (by omega)]
            simp [hlen]
        | succ k =>
            -- the last of the zeros is the one that keeps the sign
            have hoff : integer.length - ((x :: xs).length + 1) = k := by omega
            rw [if_neg (by omega), hoff, List.drop_replicate]
            simp

/-! ## INTEGER -/

/-- What an INTEGER is written as, with or without its tag. -/
def integerOctets (contents : Bytes) (tagged : Bool) : Bytes :=
  (if tagged then [INTEGER_TAG] else []) ++ lengthField contents.length ++ contents

/-- `contents` is the one minimal form of the number that the bytes
    denote, and no form of it is shorter. -/
structure MinimalForm (integer contents : Bytes) : Prop where
  der : IsInteger (ofBigEndian 0 integer : Nat) contents
  unique : ∀ other, IsInteger (ofBigEndian 0 integer : Nat) other → other = contents
  shortest : ∀ other, other ≠ [] →
    twosComplement other = (ofBigEndian 0 integer : Nat) →
      contents.length ≤ other.length

/-- A reader takes `octets` for `size`, and of all octets that it takes for
    `size` none are fewer, and no others as few. -/
structure MinimalLength (size : Nat) (octets : Bytes) : Prop where
  readBack : ∀ rest, readDefinite (octets ++ rest) = some (size, rest)
  shortest : ∀ other, readDefinite other = some (size, []) →
    octets.length ≤ other.length ∧ (other.length = octets.length → other = octets)

/-- **EVERY NUMBER IN ITS MINIMAL FORM**: what is written is the minimal
    form of the number that the bytes denote, behind its length and its
    tag; the size functions give the numbers of bytes written; and a size
    below four gigabytes is written as its minimal length field. -/
theorem encodeIntegerBytes_der {integer : Bytes} (h : integer ≠ []) :
    (∀ tagged, Emits (encodeIntegerBytes integer tagged)
      (integerOctets (padSign (stripZeros integer)) tagged)) ∧
    MinimalForm integer (padSign (stripZeros integer)) ∧
    (∀ w, ((encodeIntegerBytes integer true).run w).1 = getIntegerBytesSize integer true) ∧
    getIntegerBytesSize integer false = (padSign (stripZeros integer)).length ∧
    ∀ size < 2 ^ 32, Emits (encodeSizeField size) (lengthField size) ∧
      MinimalLength size (lengthField size) := by
  have hder := isInteger_padSign h
  have hcontents := integerBytes_eq h
  have hlen := integerBytes_length integer
  have hemits : ∀ tagged, Emits (encodeIntegerBytes integer tagged)
      (integerOctets (padSign (stripZeros integer)) tagged) := by
    intro tagged
    rw [← hcontents]
    cases tagged with
    | true => exact (emits_encodeIntegerBytes integer).congr rfl
    | false => exact (emits_encodeIntegerBytes_untagged integer).congr rfl
  have hwritten : ∀ w, ((encodeIntegerBytes integer true).run w).1
      = getIntegerBytesSize integer true := by
    intro w
    rw [hcontents] at hlen
    rw [(hemits true w).1]
    show _ = 1 + getSizeWidth (getIntegerBytesSize integer false)
      + getIntegerBytesSize integer false
    rw [← hlen, getSizeWidth_eq, integerOctets]
    simp only [if_true, List.length_append, List.length_singleton, lengthField_length]
  refine ⟨hemits, ⟨hder, fun _ => hder.unique, fun _ => hder.shortest⟩, hwritten, ?_, ?_⟩
  · rw [← hlen, hcontents]
  · intro size hsize
    exact ⟨emits_encodeSizeField size,
      ⟨readDefinite_lengthField hsize, fun _ => lengthField_shortest⟩⟩

/-- Two zeros and a set bit: one of the zeros stays. -/
theorem encodeIntegerBytes_der_sample :
    ([0, 0, 0x80, 5] : Bytes) ≠ [] ∧
      IsInteger (0x8005 : Nat) [0, 0x80, 5] ∧
      Emits (encodeIntegerBytes [0, 0, 0x80, 5] true) [2, 3, 0, 0x80, 5] := by
  have hne : ([0, 0, 0x80, 5] : Bytes) ≠ [] := by decide
  obtain ⟨hemits, hder, -⟩ := encodeIntegerBytes_der hne
  exact ⟨hne, hder.der, hemits true⟩

end CertWriter

end Dpe
