import Dpe.Lib.Der

/-! # DER integers — the shortest two's complement octets

    The contents of an INTEGER are the octets of a two's complement
    number, most significant first.  They are minimal when the first nine
    bits are neither all zero nor all one.  Every number has exactly one
    minimal form, and it is shorter than every other.

    A length field is read the same way: a reader that accepts any
    definite form finds in the octets of a number that number, and no
    other octets that stand for it are as short. -/

namespace Der

/-! ## Numbers of a fixed width -/

theorem ofBigEndian_acc (acc : Nat) (bs : List UInt8) :
    ofBigEndian acc bs = acc * 256 ^ bs.length + ofBigEndian 0 bs := by
  induction bs generalizing acc with
  | nil => simp [ofBigEndian]
  | cons x xs ih =>
      rw [ofBigEndian, ofBigEndian, ih, ih (0 * 256 + x.toNat), List.length_cons,
        Nat.pow_succ]
      ring

theorem ofBigEndian_cons (x : UInt8) (xs : List UInt8) :
    ofBigEndian 0 (x :: xs) = x.toNat * 256 ^ xs.length + ofBigEndian 0 xs := by
  rw [ofBigEndian, ofBigEndian_acc, Nat.zero_mul, Nat.zero_add]

theorem ofBigEndian_lt (bs : List UInt8) : ofBigEndian 0 bs < 256 ^ bs.length := by
  induction bs with
  | nil => exact Nat.one_pos
  | cons x xs ih =>
      have hx : x.toNat < 256 := x.toNat_lt
      have hmul : (x.toNat + 1) * 256 ^ xs.length ≤ 256 * 256 ^ xs.length :=
        Nat.mul_le_mul_right _ hx
      rw [ofBigEndian_cons, List.length_cons, Nat.pow_succ]
      rw [Nat.add_mul, Nat.one_mul] at hmul
      omega

/-- Octets of one width are determined by their number. -/
theorem ofBigEndian_inj {xs ys : List UInt8} (hlen : xs.length = ys.length)
    (h : ofBigEndian 0 xs = ofBigEndian 0 ys) : xs = ys := by
  induction xs generalizing ys with
  | nil => exact (List.length_eq_zero_iff.mp hlen.symm).symm
  | cons x xs ih =>
      cases ys with
      | nil => cases hlen
      | cons y ys =>
          have hlen' : xs.length = ys.length := Nat.succ.inj hlen
          have hxs := ofBigEndian_lt xs
          have hys := ofBigEndian_lt ys
          rw [ofBigEndian_cons, ofBigEndian_cons, ← hlen'] at h
          rw [← hlen'] at hys
          -- the leading octet is the quotient, the rest the remainder
          have hquot : x.toNat = y.toNat := by
            rcases Nat.lt_trichotomy x.toNat y.toNat with hlt | heq | hgt
            · have hmul := Nat.mul_le_mul_right (256 ^ xs.length) hlt
              rw [Nat.succ_mul] at hmul
              omega
            · exact heq
            · have hmul := Nat.mul_le_mul_right (256 ^ xs.length) hgt
              rw [Nat.succ_mul] at hmul
              omega
          rw [hquot] at h
          rw [UInt8.toNat_inj.mp hquot, ih hlen' (by omega)]

/-! ## Two's complement -/

/-- The number that octets stand for in two's complement. -/
def twosComplement : List UInt8 → Int
  | [] => 0
  | x :: xs =>
      (ofBigEndian 0 (x :: xs) : Int)
        - if x.toNat < 128 then 0 else (256 ^ (xs.length + 1) : Nat)

/-- There is at least one octet, and the first nine bits are neither all
    zero nor all one. -/
def Minimal : List UInt8 → Prop
  | [] => False
  | [_] => True
  | x :: y :: _ => ¬ (x = 0 ∧ y.toNat < 128) ∧ ¬ (x = 255 ∧ 128 ≤ y.toNat)

/-- The contents of an INTEGER of the value `v`. -/
structure IsInteger (v : Int) (contents : List UInt8) : Prop where
  minimal : Minimal contents
  value : twosComplement contents = v

/-- What fits in a width. -/
theorem twosComplement_bounds (x : UInt8) (xs : List UInt8) :
    -((128 * 256 ^ xs.length : Nat) : Int) ≤ twosComplement (x :: xs) ∧
      twosComplement (x :: xs) < (128 * 256 ^ xs.length : Nat) := by
  have hxs := ofBigEndian_lt xs
  have hx : x.toNat < 256 := x.toNat_lt
  have hpow : 256 ^ (xs.length + 1) = 256 * 256 ^ xs.length := by
    rw [Nat.pow_succ, Nat.mul_comm]
  rw [twosComplement, ofBigEndian_cons, hpow]
  generalize 256 ^ xs.length = p at *
  split
  · rename_i hlow
    have hmul : (x.toNat + 1) * p ≤ 128 * p := Nat.mul_le_mul_right _ hlow
    rw [Nat.add_mul, Nat.one_mul] at hmul
    omega
  · rename_i hhigh
    have hmul : (x.toNat + 1) * p ≤ 256 * p := Nat.mul_le_mul_right _ hx
    have hmul' : 128 * p ≤ x.toNat * p := Nat.mul_le_mul_right _ (Nat.not_lt.mp hhigh)
    rw [Nat.add_mul, Nat.one_mul] at hmul
    omega

/-- The sign is the first bit. -/
theorem twosComplement_neg_iff (x : UInt8) (xs : List UInt8) :
    twosComplement (x :: xs) < 0 ↔ ¬ x.toNat < 128 := by
  have hlt := ofBigEndian_lt (x :: xs)
  rw [List.length_cons] at hlt
  rw [twosComplement]
  split
  · rename_i hlow
    constructor
    · intro hneg
      omega
    · intro hno
      exact absurd hlow hno
  · rename_i hhigh
    exact ⟨fun _ => hhigh, fun _ => by omega⟩

/-- A minimal form of two octets or more does not fit in one octet
    less. -/
theorem Minimal.not_shorter {x y : UInt8} {ys : List UInt8} (h : Minimal (x :: y :: ys)) :
    twosComplement (x :: y :: ys) < -((128 * 256 ^ ys.length : Nat) : Int) ∨
      ((128 * 256 ^ ys.length : Nat) : Int) ≤ twosComplement (x :: y :: ys) := by
  obtain ⟨hzero, hones⟩ := h
  have hys := ofBigEndian_lt ys
  have hx : x.toNat < 256 := x.toNat_lt
  have hy : y.toNat < 256 := y.toNat_lt
  have hpow : 256 ^ (ys.length + 1 + 1) = 65536 * 256 ^ ys.length := by
    rw [Nat.pow_succ, Nat.pow_succ]
    ring
  have hpow' : 256 ^ (ys.length + 1) = 256 * 256 ^ ys.length := by
    rw [Nat.pow_succ, Nat.mul_comm]
  rw [twosComplement, ofBigEndian_cons, ofBigEndian_cons, List.length_cons, hpow, hpow']
  have hassoc : x.toNat * (256 * 256 ^ ys.length) = 256 * x.toNat * 256 ^ ys.length := by
    ring
  rw [hassoc]
  have hxzero : x.toNat = 0 → x = 0 := fun h0 => UInt8.toNat_inj.mp h0
  have hxones : x.toNat = 255 → x = 255 := fun h255 => UInt8.toNat_inj.mp h255
  generalize hp : 256 ^ ys.length = p at *
  have hsum : 256 * x.toNat * p + (y.toNat * p + ofBigEndian 0 ys)
      = (256 * x.toNat + y.toNat) * p + ofBigEndian 0 ys := by
    rw [Nat.add_mul, Nat.add_assoc]
  rw [hsum]
  split
  · rename_i hlow
    right
    have hbig : 128 ≤ 256 * x.toNat + y.toNat := by
      by_contra hsmall
      exact hzero ⟨hxzero (by omega), by omega⟩
    have hmul : 128 * p ≤ (256 * x.toNat + y.toNat) * p := Nat.mul_le_mul_right _ hbig
    omega
  · rename_i hhigh
    left
    have hsmall : 256 * x.toNat + y.toNat + 1 ≤ 65536 - 128 := by
      by_contra hbig
      exact hones ⟨hxones (by omega), by omega⟩
    have hmul : (256 * x.toNat + y.toNat + 1) * p ≤ (65536 - 128) * p :=
      Nat.mul_le_mul_right _ hsmall
    rw [Nat.add_mul, Nat.one_mul, Nat.sub_mul] at hmul
    omega

/-- **SHORTEST**: no octets that stand for the same number are fewer. -/
theorem IsInteger.shortest {v : Int} {contents other : List UInt8}
    (h : IsInteger v contents) (hne : other ≠ []) (hv : twosComplement other = v) :
    contents.length ≤ other.length := by
  obtain ⟨hmin, hval⟩ := h
  match contents, hmin with
  | [_], _ => exact List.length_pos_iff.mpr hne
  | x :: y :: ys, hmin =>
      cases other with
      | nil => exact absurd rfl hne
      | cons z zs =>
          by_contra hlong
          have hlen : zs.length ≤ ys.length := by
            simp only [List.length_cons] at hlong
            omega
          have hpow : 256 ^ zs.length ≤ 256 ^ ys.length :=
            Nat.pow_le_pow_right (by omega) hlen
          have hfits := twosComplement_bounds z zs
          have hout := hmin.not_shorter
          rw [hval] at hout
          rw [hv] at hfits
          omega

/-- Octets of one width are determined by the number they stand for. -/
theorem twosComplement_inj {xs ys : List UInt8} (hlen : xs.length = ys.length)
    (h : twosComplement xs = twosComplement ys) : xs = ys := by
  cases xs with
  | nil => exact (List.length_eq_zero_iff.mp hlen.symm).symm
  | cons x xs =>
      cases ys with
      | nil => cases hlen
      | cons y ys =>
          have hlen' : xs.length = ys.length := Nat.succ.inj hlen
          have hsign : x.toNat < 128 ↔ y.toNat < 128 := by
            have hx := twosComplement_neg_iff x xs
            rw [h, twosComplement_neg_iff y ys] at hx
            exact (not_iff_not.mp hx).symm
          refine ofBigEndian_inj hlen ?_
          rw [twosComplement, twosComplement, hlen'] at h
          by_cases hlow : x.toNat < 128
          · rw [if_pos hlow, if_pos (hsign.mp hlow)] at h
            omega
          · rw [if_neg hlow, if_neg (mt hsign.mpr hlow)] at h
            omega

/-- **UNIQUE**: a number has one minimal form. -/
theorem IsInteger.unique {v : Int} {contents other : List UInt8}
    (h : IsInteger v contents) (h' : IsInteger v other) : other = contents := by
  have hne : contents ≠ [] := by
    rintro rfl
    exact h.minimal
  have hne' : other ≠ [] := by
    rintro rfl
    exact h'.minimal
  have hle := h.shortest hne' h'.value
  have hle' := h'.shortest hne h.value
  exact twosComplement_inj (by omega) (h'.value.trans h.value.symm)

/-! ## Non-negative numbers -/

/-- Leading zeros taken off; the last octet stays. -/
def stripZeros : List UInt8 → List UInt8
  | [] => []
  | [x] => [x]
  | x :: y :: rest => if x = 0 then stripZeros (y :: rest) else x :: y :: rest

/-- A zero octet in front of a first bit that is set. -/
def padSign : List UInt8 → List UInt8
  | [] => []
  | x :: xs => if x.toNat < 128 then x :: xs else 0 :: x :: xs

/-- Only zeros are taken off. -/
theorem stripZeros_append (bs : List UInt8) :
    ∃ k, bs = List.replicate k 0 ++ stripZeros bs := by
  induction bs using stripZeros.induct with
  | case1 => exact ⟨0, rfl⟩
  | case2 x => exact ⟨0, rfl⟩
  | case3 y rest ih =>
      obtain ⟨k, hk⟩ := ih
      refine ⟨k + 1, ?_⟩
      rw [stripZeros, if_pos rfl, List.replicate_succ, List.cons_append, ← hk]
  | case4 x y rest hx =>
      refine ⟨0, ?_⟩
      rw [stripZeros, if_neg hx]
      rfl

theorem stripZeros_ne_nil {bs : List UInt8} (h : bs ≠ []) : stripZeros bs ≠ [] := by
  induction bs using stripZeros.induct with
  | case1 => exact h
  | case2 x => exact h
  | case3 y rest ih =>
      rw [stripZeros, if_pos rfl]
      exact ih (List.cons_ne_nil _ _)
  | case4 x y rest hx =>
      rw [stripZeros, if_neg hx]
      exact h

/-- A zero is left in front only if it is the last octet. -/
theorem stripZeros_head {bs rest : List UInt8} {x y : UInt8}
    (h : stripZeros bs = x :: y :: rest) : x ≠ 0 := by
  induction bs using stripZeros.induct with
  | case1 => cases h
  | case2 z => cases h
  | case3 z tail ih =>
      rw [stripZeros, if_pos rfl] at h
      exact ih h
  | case4 z w tail hz =>
      rw [stripZeros, if_neg hz] at h
      cases h
      exact hz

theorem ofBigEndian_zeros (k : Nat) (bs : List UInt8) :
    ofBigEndian 0 (List.replicate k 0 ++ bs) = ofBigEndian 0 bs := by
  induction k with
  | zero => rfl
  | succ k ih =>
      have hnull : (0 : UInt8).toNat = 0 := rfl
      rw [List.replicate_succ, List.cons_append, ofBigEndian_cons, ih, hnull,
        Nat.zero_mul, Nat.zero_add]

/-- **NON-NEGATIVE**: stripped and padded, octets are the contents of the
    INTEGER of the number they denote. -/
theorem isInteger_padSign {bs : List UInt8} (h : bs ≠ []) :
    IsInteger (ofBigEndian 0 bs : Nat) (padSign (stripZeros bs)) := by
  obtain ⟨k, hk⟩ := stripZeros_append bs
  have hvalue : ofBigEndian 0 bs = ofBigEndian 0 (stripZeros bs) := by
    conv_lhs => rw [hk]
    exact ofBigEndian_zeros k _
  cases hs : stripZeros bs with
  | nil => exact absurd hs (stripZeros_ne_nil h)
  | cons x xs =>
      rw [hvalue, hs, padSign]
      by_cases hx : x.toNat < 128
      · rw [if_pos hx]
        refine ⟨?_, ?_⟩
        · cases xs with
          | nil => trivial
          | cons y ys =>
              refine ⟨fun hzero => stripZeros_head hs hzero.1, fun hones => ?_⟩
              rw [hones.1] at hx
              exact absurd hx (by decide)
        · rw [twosComplement, if_pos hx]
          omega
      · rw [if_neg hx]
        refine ⟨⟨fun hzero => hx hzero.2, fun hones => ?_⟩, ?_⟩
        · exact absurd hones.1 (by decide)
        · have hzero : (0 : UInt8).toNat < 128 := by decide
          rw [twosComplement, if_pos hzero, ofBigEndian_cons]
          have hnull : (0 : UInt8).toNat = 0 := rfl
          rw [hnull, Nat.zero_mul, Nat.zero_add]
          omega

/-! ## Length octets -/

/-- Read a length field in any definite form. -/
def readDefinite : List UInt8 → Option (Nat × List UInt8)
  | [] => none
  | x :: rest =>
      if x.toNat < 128 then some (x.toNat, rest)
      else
        let count := x.toNat - 128
        if count = 0 ∨ count = 127 ∨ rest.length < count then none
        else some (ofBigEndian 0 (rest.take count), rest.drop count)

theorem readDefinite_lengthField {n : Nat} (h : n < 2 ^ 32) (rest : List UInt8) :
    readDefinite (lengthField n ++ rest) = some (n, rest) := by
  unfold lengthField
  by_cases hshort : n < 128
  · have hn : (UInt8.ofNat n).toNat = n := by
      rw [UInt8.toNat_ofNat']
      omega
    rw [if_pos hshort, List.singleton_append, readDefinite, hn, if_pos hshort]
  · have hw := lengthWidth_le n
    have hwide : 1 < lengthWidth n := by
      unfold lengthWidth
      rw [if_neg hshort]
      repeat' split
      all_goals omega
    have hcount : (UInt8.ofNat (127 + lengthWidth n)).toNat = 127 + lengthWidth n := by
      rw [UInt8.toNat_ofNat']
      omega
    have hoctets : 127 + lengthWidth n - 128 = (bigEndian n (lengthWidth n - 1)).length := by
      rw [bigEndian_length]
      omega
    have hroom : (bigEndian n (lengthWidth n - 1)).length = lengthWidth n - 1 :=
      bigEndian_length ..
    rw [if_neg hshort, List.cons_append, readDefinite, hcount, if_neg (by omega)]
    dsimp only
    rw [hoctets, if_neg (by rw [List.length_append]; omega), List.take_left,
      List.drop_left, ofBigEndian_bigEndian, Nat.zero_mul, Nat.zero_add,
      Nat.mod_eq_of_lt (lt_pow_lengthWidth h hshort)]

/-- A number below `256 ^ k` needs no more than `k` octets of length. -/
theorem lengthWidth_le_of_lt {n k : Nat} (hk : 0 < k) (h : n < 256 ^ k) :
    lengthWidth n ≤ k + 1 := by
  unfold lengthWidth
  match k, hk with
  | 1, _ => repeat' split
            all_goals omega
  | 2, _ => repeat' split
            all_goals omega
  | 3, _ => repeat' split
            all_goals omega
  | k + 4, _ => repeat' split
                all_goals omega

/-- **THE MINIMAL LENGTH FIELD**: octets that a reader takes for `n` are
    not fewer than those of the length field, and as few only if they are
    the same. -/
theorem lengthField_shortest {n : Nat} {octets : List UInt8}
    (hread : readDefinite octets = some (n, [])) :
    (lengthField n).length ≤ octets.length ∧
      (octets.length = (lengthField n).length → octets = lengthField n) := by
  cases octets with
  | nil => cases hread
  | cons x rest =>
      rw [readDefinite] at hread
      by_cases hx : x.toNat < 128
      · rw [if_pos hx] at hread
        cases hread
        have hfield : lengthField x.toNat = [x] := by
          unfold lengthField
          rw [if_pos hx, UInt8.ofNat_toNat]
        rw [hfield]
        exact ⟨Nat.le_refl _, fun _ => rfl⟩
      · rw [if_neg hx] at hread
        dsimp only at hread
        split at hread
        · cases hread
        · rename_i hform
          obtain ⟨hn, hdrop⟩ := Prod.mk.inj (Option.some.inj hread)
          have hlen : rest.length = x.toNat - 128 := by
            have hdroplen := congrArg List.length hdrop
            rw [List.length_drop, List.length_nil] at hdroplen
            omega
          rw [← hlen, List.take_length] at hn
          have hpos : 0 < rest.length := by omega
          have hlt : n < 256 ^ rest.length := hn ▸ ofBigEndian_lt rest
          have hwidth := lengthWidth_le_of_lt hpos hlt
          rw [lengthField_length, List.length_cons]
          refine ⟨hwidth, fun heq => ?_⟩
          have hlong : ¬ n < 128 := by
            intro hshort
            have hone : lengthWidth n = 1 := if_pos hshort
            omega
          unfold lengthField
          rw [if_neg hlong, ← heq]
          have htag : UInt8.ofNat (127 + (rest.length + 1)) = x := by
            have hsum : 127 + (rest.length + 1) = x.toNat := by omega
            rw [hsum, UInt8.ofNat_toNat]
          have hoctets : rest = bigEndian n (rest.length + 1 - 1) := by
            rw [Nat.add_sub_cancel]
            refine ofBigEndian_inj (bigEndian_length ..).symm ?_
            rw [ofBigEndian_bigEndian, Nat.zero_mul, Nat.zero_add, hn]
            exact (Nat.mod_eq_of_lt hlt).symm
          rw [htag, ← hoctets]

/-! ## Trees read back -/

/-- The octets of a tree delimit it: a reader of any definite form, put in
    front of a length field, finds the number of bytes of the contents and
    stops where they begin. -/
def Tlv.ReadsBack : Tlv → Prop
  | raw _ => True
  | node _ declared body =>
      (∀ rest, readDefinite (lengthField declared ++ body.bytes ++ rest)
        = some (body.size, body.bytes ++ rest)) ∧
      body.ReadsBack
  | cat a b => a.ReadsBack ∧ b.ReadsBack

/-- **EXACT LENGTHS ARE IN THE OCTETS**, below four gigabytes. -/
theorem Tlv.Exact.readsBack {t : Tlv} (hexact : t.Exact) (h : t.size < 2 ^ 32) :
    t.ReadsBack := by
  induction t with
  | raw bs => exact trivial
  | node tag declared body ih =>
      obtain ⟨hdeclared, hbody⟩ := hexact
      rw [size_node] at h
      refine ⟨fun rest => ?_, ih hbody (by omega)⟩
      have hlt : declared < 2 ^ 32 := by omega
      rw [List.append_assoc, readDefinite_lengthField hlt, hdeclared]
  | cat a b iha ihb =>
      have hsize : (cat a b).size = a.size + b.size := List.length_append
      rw [hsize] at h
      exact ⟨iha hexact.1 (by omega), ihb hexact.2 (by omega)⟩

end Der
