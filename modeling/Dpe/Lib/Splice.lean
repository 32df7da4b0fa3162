import Mathlib.Data.List.Basic

/-! # Splices — writing into the middle of a list

    `splice l off xs` overwrites `l` from `off` on with `xs`.  As long as
    everything lies inside `l`, writing two blocks one behind the other
    is writing them at once, and overwriting a gap inside a block is
    writing the block with the gap filled. -/

namespace Splice

universe u

variable {α : Type u} {l xs ys zs : List α} {off : Nat}

/-- Overwrite `l` with `xs` from `off` on. -/
def splice (l : List α) (off : Nat) (xs : List α) : List α :=
  l.take off ++ xs ++ l.drop (off + xs.length)

/-- What a splice holds at each place. -/
theorem getElem?_splice (h : off + xs.length ≤ l.length) (i : Nat) :
    (splice l off xs)[i]? =
      if off ≤ i ∧ i < off + xs.length then xs[i - off]? else l[i]? := by
  unfold splice
  have hlen : (l.take off).length = off := by
    rw [List.length_take]
    omega
  by_cases hlt : i < off
  · rw [if_neg (by omega), List.append_assoc, List.getElem?_append_left (by omega),
      List.getElem?_take, if_pos hlt]
  · by_cases hin : i < off + xs.length
    · rw [if_pos ⟨by omega, hin⟩, List.getElem?_append_left
        (by rw [List.length_append]; omega),
        List.getElem?_append_right (by omega), hlen]
    · rw [if_neg (by omega), List.getElem?_append_right
        (by rw [List.length_append]; omega), List.getElem?_drop,
        List.length_append, hlen]
      congr 1
      omega

@[simp] theorem splice_nil : splice l off ([] : List α) = l := by
  simp [splice]

theorem length_splice (h : off + xs.length ≤ l.length) :
    (splice l off xs).length = l.length := by
  unfold splice
  simp only [List.length_append, List.length_take, List.length_drop]
  omega

/-- **APPENDING**: two blocks one behind the other are one block. -/
theorem splice_append (h : off + xs.length + ys.length ≤ l.length) :
    splice (splice l off xs) (off + xs.length) ys = splice l off (xs ++ ys) := by
  have hlen : (splice l off xs).length = l.length := length_splice (by omega)
  apply List.ext_getElem?
  intro i
  rw [getElem?_splice (by omega), getElem?_splice (by omega),
    getElem?_splice (by rw [List.length_append]; omega), List.length_append,
    List.getElem?_append]
  by_cases h1 : i < off
  · rw [if_neg (by omega), if_neg (by omega), if_neg (by omega)]
  · by_cases h2 : i < off + xs.length
    · rw [if_neg (by omega), if_pos (by omega), if_pos (by omega),
        if_pos (by omega)]
    · by_cases h3 : i < off + xs.length + ys.length
      · rw [if_pos (by omega), if_pos (by omega), if_neg (by omega)]
        congr 1
        omega
      · rw [if_neg (by omega), if_neg (by omega), if_neg (by omega)]

/-- **FILLING A GAP** inside a block that has been written. -/
theorem splice_fill {gap field : List α} (hgap : gap.length = field.length)
    (h : off + (xs ++ gap ++ zs).length ≤ l.length) :
    splice (splice l off (xs ++ gap ++ zs)) (off + xs.length) field
      = splice l off (xs ++ field ++ zs) := by
  simp only [List.length_append] at h
  have hblock : off + (xs ++ gap ++ zs).length ≤ l.length := by
    simp only [List.length_append]
    omega
  have hlen := length_splice hblock
  apply List.ext_getElem?
  intro i
  rw [getElem?_splice (by omega), getElem?_splice hblock,
    getElem?_splice (by simp only [List.length_append]; omega)]
  simp only [List.getElem?_append, List.length_append]
  by_cases h1 : i < off
  · rw [if_neg (by omega), if_neg (by omega), if_neg (by omega)]
  · by_cases h2 : i < off + xs.length
    · rw [if_neg (by omega), if_pos (by omega), if_pos (by omega),
        if_pos (by omega), if_pos (by omega), if_pos (by omega),
        if_pos (by omega)]
    · by_cases h3 : i < off + xs.length + field.length
      · rw [if_pos (by omega), if_pos (by omega), if_pos (by omega),
          if_neg (by omega)]
        congr 1
        omega
      · by_cases h4 : i < off + (xs.length + gap.length + zs.length)
        · rw [if_neg (by omega), if_pos (by omega), if_neg (by omega),
            if_pos (by omega), if_neg (by omega)]
          congr 1
          omega
        · rw [if_neg (by omega), if_neg (by omega), if_neg (by omega)]

/-- Writing what is there already changes nothing. -/
theorem splice_self {n : Nat} (h : off + n ≤ l.length) :
    splice l off ((l.drop off).take n) = l := by
  have hlen : ((l.drop off).take n).length = n := by
    rw [List.length_take, List.length_drop]
    omega
  apply List.ext_getElem?
  intro i
  rw [getElem?_splice (by omega), hlen]
  by_cases hi : off ≤ i ∧ i < off + n
  · rw [if_pos hi, List.getElem?_take, if_pos (by omega), List.getElem?_drop]
    congr 1
    omega
  · rw [if_neg hi]

/-- A splice seen through a window. -/
theorem drop_splice {base : Nat} (h : base + off + xs.length ≤ l.length) :
    (splice l (base + off) xs).drop base = splice (l.drop base) off xs := by
  apply List.ext_getElem?
  intro i
  rw [List.getElem?_drop, getElem?_splice (by omega),
    getElem?_splice (by rw [List.length_drop]; omega), List.getElem?_drop]
  by_cases hi : off ≤ i ∧ i < off + xs.length
  · rw [if_pos (by omega), if_pos hi]
    congr 1
    omega
  · rw [if_neg (by omega), if_neg hi]

/-- A splice behind a front. -/
theorem splice_append_left (front l xs : List α) (off : Nat) :
    splice (front ++ l) (front.length + off) xs = front ++ splice l off xs := by
  unfold splice
  rw [Nat.add_assoc, List.take_length_add_append, List.drop_length_add_append,
    List.append_assoc, List.append_assoc, List.append_assoc]

/-- Overwriting the first place of what is left. -/
theorem splice_append_cons (done rest : List α) (x y : α) :
    splice (done ++ x :: rest) done.length [y] = done ++ y :: rest := by
  have h := splice_append_left done (x :: rest) [y] 0
  rw [Nat.add_zero] at h
  rw [h]
  rfl

/-- Writing at the start. -/
theorem splice_zero (l xs : List α) :
    splice l 0 xs = xs ++ l.drop xs.length := by
  simp [splice]

/-- A block written behind the place of a header, and then the header. -/
theorem splice_header {l' : List α}
    (h : l'.drop xs.length = splice (l.drop xs.length) 0 ys) :
    splice l' 0 xs = splice l 0 (xs ++ ys) := by
  rw [splice_zero, splice_zero, h, splice_zero, List.drop_drop,
    List.length_append, List.append_assoc]

/-- What was written is read back. -/
theorem take_drop_splice (h : off + xs.length ≤ l.length) :
    ((splice l off xs).drop off).take xs.length = xs := by
  apply List.ext_getElem?
  intro i
  rw [List.getElem?_take]
  by_cases hi : i < xs.length
  · rw [if_pos hi, List.getElem?_drop, getElem?_splice h, if_pos (by omega)]
    congr 1
    omega
  · rw [if_neg hi, List.getElem?_eq_none (by omega)]

/-- What lies apart from the place that is written stays. -/
theorem take_drop_splice_apart {i n : Nat} (h : off + xs.length ≤ l.length)
    (hapart : i + n ≤ off ∨ off + xs.length ≤ i) :
    ((splice l off xs).drop i).take n = (l.drop i).take n := by
  apply List.ext_getElem?
  intro j
  rw [List.getElem?_take, List.getElem?_take]
  by_cases hj : j < n
  · rw [if_pos hj, if_pos hj, List.getElem?_drop, List.getElem?_drop,
      getElem?_splice h, if_neg (by omega)]
  · rw [if_neg hj, if_neg hj]

/-- The end of a block is read back. -/
theorem take_drop_splice_append (h : off + xs.length + ys.length ≤ l.length) :
    ((splice l off (xs ++ ys)).drop (off + xs.length)).take ys.length = ys := by
  have hlen : (splice l off xs).length = l.length := length_splice (by omega)
  rw [← splice_append h]
  exact take_drop_splice (by omega)

/-- The middle of a block is read back. -/
theorem take_drop_splice_mid
    (h : off + (xs ++ ys ++ zs).length ≤ l.length) :
    ((splice l off (xs ++ ys ++ zs)).drop (off + xs.length)).take ys.length
      = ys := by
  simp only [List.length_append] at h
  apply List.ext_getElem?
  intro i
  rw [List.getElem?_take]
  by_cases hi : i < ys.length
  · rw [if_pos hi, List.getElem?_drop, getElem?_splice
      (by simp only [List.length_append]; omega),
      if_pos (by simp only [List.length_append]; omega), List.append_assoc,
      List.getElem?_append_right (by omega), List.getElem?_append_left (by omega)]
    congr 1
    omega
  · rw [if_neg hi, List.getElem?_eq_none (by omega)]

end Splice
