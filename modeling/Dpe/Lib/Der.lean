import Mathlib.Data.Nat.Basic
import Mathlib.Tactic.Ring

/-! # DER — length fields and nested structures

    A structure is a tag, a length field and contents.  The tree of a
    message keeps, for each of its structures, the number its length
    field DECLARES next to the contents it has.  It is well nested when
    a reader of the bytes finds in every length field the number of
    bytes that the contents really have. -/

namespace Der

/-! ## Length fields -/

/-- The octets a length field takes. -/
def lengthWidth (n : Nat) : Nat :=
  if n < 128 then 1
  else if n < 256 then 2
  else if n < 65536 then 3
  else if n < 16777216 then 4
  else 5

/-- The last `k` octets of `n`, most significant first. -/
def bigEndian (n : Nat) : Nat → List UInt8
  | 0 => []
  | k + 1 => UInt8.ofNat (n / 256 ^ k) :: bigEndian n k

/-- The number a list of octets stands for. -/
def ofBigEndian (acc : Nat) : List UInt8 → Nat
  | [] => acc
  | x :: xs => ofBigEndian (acc * 256 + x.toNat) xs

/-- The length field of contents of `n` bytes: the number itself if it
    is short, otherwise the count of its octets and its octets. -/
def lengthField (n : Nat) : List UInt8 :=
  if n < 128 then [UInt8.ofNat n]
  else UInt8.ofNat (127 + lengthWidth n) :: bigEndian n (lengthWidth n - 1)

/-- Read a length field; only the shortest encoding is accepted. -/
def readLength : List UInt8 → Option (Nat × List UInt8)
  | [] => none
  | x :: rest =>
      if x.toNat < 128 then some (x.toNat, rest)
      else
        let octets := rest.take (x.toNat - 128)
        let n := ofBigEndian 0 octets
        if lengthField n = x :: octets then
          some (n, rest.drop (x.toNat - 128))
        else none

@[simp] theorem bigEndian_length (n k : Nat) : (bigEndian n k).length = k := by
  induction k with
  | zero => rfl
  | succ k ih => rw [bigEndian, List.length_cons, ih]

theorem ofBigEndian_bigEndian (n k acc : Nat) :
    ofBigEndian acc (bigEndian n k) = acc * 256 ^ k + n % 256 ^ k := by
  induction k generalizing acc with
  | zero => simp [bigEndian, ofBigEndian, Nat.mod_one]
  | succ k ih =>
      have hpow : 256 ^ (k + 1) = 256 ^ k * 256 := Nat.pow_succ _ _
      have hdigit : (UInt8.ofNat (n / 256 ^ k)).toNat = n / 256 ^ k % 256 :=
        UInt8.toNat_ofNat'
      rw [bigEndian, ofBigEndian, ih, hdigit, hpow, Nat.mod_mul]
      ring

theorem lengthWidth_pos (n : Nat) : 0 < lengthWidth n := by
  unfold lengthWidth
  repeat' split
  all_goals omega

theorem lengthWidth_le (n : Nat) : lengthWidth n ≤ 5 := by
  unfold lengthWidth
  repeat' split
  all_goals omega

/-- A number that needs more than one octet of length is below what its
    octets can hold. -/
theorem lt_pow_lengthWidth {n : Nat} (h : n < 2 ^ 32) (hbig : ¬ n < 128) :
    n < 256 ^ (lengthWidth n - 1) := by
  unfold lengthWidth
  rw [if_neg hbig]
  repeat' split
  all_goals (norm_num; omega)

@[simp] theorem lengthField_length (n : Nat) :
    (lengthField n).length = lengthWidth n := by
  have hpos := lengthWidth_pos n
  unfold lengthField
  by_cases h : n < 128
  · rw [if_pos h, lengthWidth, if_pos h]
    rfl
  · rw [if_neg h, List.length_cons, bigEndian_length]
    omega

/-- **READING BACK** a length field. -/
theorem readLength_lengthField {n : Nat} (h : n < 2 ^ 32) (rest : List UInt8) :
    readLength (lengthField n ++ rest) = some (n, rest) := by
  unfold lengthField
  by_cases hshort : n < 128
  · have hn : (UInt8.ofNat n).toNat = n := by
      rw [UInt8.toNat_ofNat']
      omega
    rw [if_pos hshort, List.singleton_append, readLength]
    simp only [hn]
    rw [if_pos hshort]
  · have hw := lengthWidth_le n
    have hcount : (UInt8.ofNat (127 + lengthWidth n)).toNat
        = 127 + lengthWidth n := by
      rw [UInt8.toNat_ofNat']
      omega
    have hpos := lengthWidth_pos n
    have hwide : 1 < lengthWidth n := by
      unfold lengthWidth
      rw [if_neg hshort]
      repeat' split
      all_goals omega
    have hoctets : 127 + lengthWidth n - 128 = (bigEndian n (lengthWidth n - 1)).length := by
      rw [bigEndian_length]
      omega
    rw [if_neg hshort, List.cons_append, readLength]
    simp only [hcount]
    rw [if_neg (by omega), hoctets, List.take_left, List.drop_left,
      ofBigEndian_bigEndian, Nat.zero_mul, Nat.zero_add,
      Nat.mod_eq_of_lt (lt_pow_lengthWidth h hshort)]
    rw [if_pos]
    unfold lengthField
    rw [if_neg hshort]

/-! ## Trees -/

/-- The tree of a message. -/
inductive Tlv where
  /-- bytes without a structure of their own -/
  | raw (bytes : List UInt8)
  /-- a tag, a length field that declares `declared`, and contents -/
  | node (tag : UInt8) (declared : Nat) (body : Tlv)
  /-- one behind the other -/
  | cat (a b : Tlv)

namespace Tlv

/-- The trees of a list, one behind the other. -/
def all : List Tlv → Tlv
  | [] => raw []
  | t :: ts => cat t (all ts)

/-- A structure with bytes as its contents. -/
def prim (tag : UInt8) (val : List UInt8) : Tlv := node tag val.length (raw val)

def bytes : Tlv → List UInt8
  | raw bs => bs
  | node tag declared body => tag :: lengthField declared ++ body.bytes
  | cat a b => a.bytes ++ b.bytes

/-- The number of bytes of a tree. -/
def size (t : Tlv) : Nat := t.bytes.length

/-- The number in the length field of a structure. -/
def declared : Tlv → Nat
  | node _ declared _ => declared
  | _ => 0

/-- Every length field declares the number of bytes of its contents. -/
def Exact : Tlv → Prop
  | raw _ => True
  | node _ declared body => declared = body.size ∧ body.Exact
  | cat a b => a.Exact ∧ b.Exact

/-- **WELL NESTED**: every length field declares the number of bytes of
    its contents, and a reader placed at the field reads that number and
    is left in front of the contents. -/
def WellNested : Tlv → Prop
  | raw _ => True
  | node _ declared body =>
      declared = body.size ∧
      readLength (lengthField declared ++ body.bytes)
        = some (declared, body.bytes) ∧
      body.WellNested
  | cat a b => a.WellNested ∧ b.WellNested

theorem length_bytes (t : Tlv) : t.bytes.length = t.size := rfl

@[simp] theorem bytes_raw (bs : List UInt8) : (raw bs).bytes = bs := rfl

@[simp] theorem bytes_all_nil : (all []).bytes = [] := rfl

@[simp] theorem bytes_all_cons (t : Tlv) (ts : List Tlv) :
    (all (t :: ts)).bytes = t.bytes ++ (all ts).bytes := rfl

@[simp] theorem size_raw (bs : List UInt8) : (raw bs).size = bs.length := rfl

@[simp] theorem size_node (tag : UInt8) (declared : Nat) (body : Tlv) :
    (node tag declared body).size = 1 + lengthWidth declared + body.size := by
  simp only [size, bytes, List.length_append, List.length_cons,
    lengthField_length]
  omega

@[simp] theorem size_prim (tag : UInt8) (val : List UInt8) :
    (prim tag val).size = 1 + lengthWidth val.length + val.length :=
  size_node ..

@[simp] theorem size_all_nil : (all []).size = 0 := rfl

@[simp] theorem size_all_cons (t : Tlv) (ts : List Tlv) :
    (all (t :: ts)).size = t.size + (all ts).size := by
  simp only [size, bytes_all_cons, List.length_append]

@[simp] theorem exact_raw (bs : List UInt8) : (raw bs).Exact := trivial

@[simp] theorem exact_node (tag : UInt8) (declared : Nat) (body : Tlv) :
    (node tag declared body).Exact ↔ declared = body.size ∧ body.Exact :=
  Iff.rfl

@[simp] theorem exact_prim (tag : UInt8) (val : List UInt8) :
    (prim tag val).Exact := ⟨rfl, trivial⟩

@[simp] theorem exact_all_nil : (all []).Exact := trivial

@[simp] theorem exact_all_cons (t : Tlv) (ts : List Tlv) :
    (all (t :: ts)).Exact ↔ t.Exact ∧ (all ts).Exact := Iff.rfl

/-- The trees of a list are exact when each of them is. -/
theorem exact_all {ts : List Tlv} : (all ts).Exact ↔ ∀ t ∈ ts, t.Exact := by
  induction ts with
  | nil => simp
  | cons t ts ih => rw [exact_all_cons, ih, List.forall_mem_cons]

theorem size_all (ts : List Tlv) : (all ts).size = (ts.map size).sum := by
  induction ts with
  | nil => rfl
  | cons t ts ih => rw [size_all_cons, ih, List.map_cons, List.sum_cons]

/-- **EXACT LENGTHS ARE READ BACK**: below four gigabytes a message is
    well nested as soon as its length fields declare the right
    numbers. -/
theorem wellNested_iff {t : Tlv} (h : t.size < 2 ^ 32) :
    t.WellNested ↔ t.Exact := by
  induction t with
  | raw bs => exact Iff.rfl
  | node tag declared body ih =>
      rw [size_node] at h
      have hbody := ih (by omega)
      constructor
      · rintro ⟨hd, -, hn⟩
        exact ⟨hd, hbody.mp hn⟩
      · rintro ⟨hd, he⟩
        have hlt : declared < 2 ^ 32 := by omega
        exact ⟨hd, readLength_lengthField hlt _, hbody.mpr he⟩
  | cat a b iha ihb =>
      have hsize : (cat a b).size = a.size + b.size := by
        simp only [size, bytes, List.length_append]
      rw [hsize] at h
      exact and_congr (iha (by omega)) (ihb (by omega))

end Tlv

end Der
