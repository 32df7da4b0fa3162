import Dpe.Model.Context

/-! # Child bitmaps as sets

    A bitmap is read through `hasChild` only.  The lemmas below say what
    each operation does to the set of indices it stands for. -/

namespace Dpe

variable {b : Build}

namespace Children

theorem getLsbD_bit (idx i : Nat) :
    (1#64 <<< idx).getLsbD i = (decide (i < 64) && decide (i = idx)) := by
  rw [← BitVec.twoPow_eq, BitVec.getLsbD_twoPow]
  by_cases h : idx = i
  · subst h
    simp
  · have h' : ¬ i = idx := fun e => h e.symm
    simp [h, h']

/-- A bit below `MAX_HANDLES` is tested by its value. -/
theorem hasChild_eq (c : Children) (i : Fin b.maxHandles) :
    c.hasChild b i = c.bits.getLsbD i := by
  have hlt : i.val < b.maxHandles := i.isLt
  have h64 : i.val < 64 := Nat.lt_of_lt_of_le i.isLt b.maxHandles_le
  unfold hasChild
  rw [if_neg (Nat.not_le.mpr hlt)]
  cases hb : c.bits.getLsbD i with
  | true =>
      simp only [bne_iff_ne, ne_eq]
      intro hz
      have hbit : (c.bits &&& 1#64 <<< i.val).getLsbD i = false := by
        rw [hz]
        exact BitVec.getLsbD_zero
      rw [BitVec.getLsbD_and, getLsbD_bit, hb] at hbit
      simp [h64] at hbit
  | false =>
      simp only [bne_eq_false_iff_eq]
      apply BitVec.eq_of_getLsbD_eq
      intro j hj
      rw [BitVec.getLsbD_and, getLsbD_bit, BitVec.ofNat_eq_ofNat,
        BitVec.getLsbD_zero]
      by_cases hji : j = i.val
      · rw [hji, hb]
        rfl
      · simp [hji]

theorem mem_iter (c : Children) (i : Fin b.maxHandles) :
    i ∈ c.iter b ↔ c.hasChild b i = true := by
  unfold iter flagsIter
  rw [List.mem_filter, hasChild_eq]
  simp

theorem nodup_iter (c : Children) : (c.iter b).Nodup :=
  (List.nodup_finRange _).filter _

@[simp] theorem hasChild_empty (i : Fin b.maxHandles) :
    empty.hasChild b i = false := by
  rw [hasChild_eq]
  simp [empty]

/-- Adding an index below `MAX_HANDLES` succeeds. -/
theorem addChild_ok (c : Children) (idx : Fin b.maxHandles) :
    c.addChild b idx = .ok ⟨c.bits ||| 1#64 <<< idx.val⟩ :=
  if_neg (Nat.not_le.mpr idx.isLt)

theorem hasChild_addChild {c c' : Children} {idx : Fin b.maxHandles}
    (h : c.addChild b idx = .ok c') (i : Fin b.maxHandles) :
    c'.hasChild b i = true ↔ c.hasChild b i = true ∨ i = idx := by
  have h64 : i.val < 64 := Nat.lt_of_lt_of_le i.isLt b.maxHandles_le
  rw [addChild_ok] at h
  cases h
  rw [hasChild_eq, hasChild_eq, BitVec.getLsbD_or, getLsbD_bit]
  simp [h64, Fin.ext_iff]

theorem hasChild_addChildren (c c' : Children) (i : Fin b.maxHandles) :
    (c.addChildren c').hasChild b i = true
      ↔ c.hasChild b i = true ∨ c'.hasChild b i = true := by
  rw [hasChild_eq, hasChild_eq, hasChild_eq, addChildren, BitVec.getLsbD_or,
    Bool.or_eq_true]

theorem hasChild_removeChildren (c c' : Children) (i : Fin b.maxHandles) :
    (c.removeChildren c').hasChild b i = true
      ↔ c.hasChild b i = true ∧ ¬ c'.hasChild b i = true := by
  have h64 : i.val < 64 := Nat.lt_of_lt_of_le i.isLt b.maxHandles_le
  rw [hasChild_eq, hasChild_eq, hasChild_eq, removeChildren,
    BitVec.getLsbD_and, BitVec.getLsbD_not]
  simp [h64]

/-! ## Bitmaps without bits past the table -/

/-- Every bit set is the index of a slot. -/
def InRange (b : Build) (c : Children) : Prop :=
  ∀ k, c.bits.getLsbD k = true → k < b.maxHandles

theorem InRange.empty : InRange b empty := by
  intro k hk
  simp [Children.empty] at hk

theorem InRange.addChild {c c' : Children} {idx : Fin b.maxHandles}
    (hc : InRange b c) (h : c.addChild b idx = .ok c') : InRange b c' := by
  rw [addChild_ok] at h
  cases h
  intro k hk
  rw [BitVec.getLsbD_or, getLsbD_bit] at hk
  rcases Bool.or_eq_true_iff.mp hk with hk | hk
  · exact hc k hk
  · simp only [Bool.and_eq_true, decide_eq_true_eq] at hk
    rw [hk.2]
    exact idx.isLt

theorem InRange.removeChildren {c : Children} (c' : Children)
    (hc : InRange b c) : InRange b (c.removeChildren c') := by
  intro k hk
  rw [Children.removeChildren, BitVec.getLsbD_and] at hk
  exact hc k (Bool.and_eq_true_iff.mp hk).1

/-- A single bit. -/
theorem hasChild_bit (idx i : Fin b.maxHandles) :
    (Children.mk (1#64 <<< idx.val)).hasChild b i = true ↔ i = idx := by
  have h64 : i.val < 64 := Nat.lt_of_lt_of_le i.isLt b.maxHandles_le
  rw [hasChild_eq, getLsbD_bit]
  simp [h64, Fin.ext_iff]

/-- Only the bits that are set matter to what is removed. -/
theorem InRange.removeChildren_congr {c m m' : Children} (hc : InRange b c)
    (h : ∀ i : Fin b.maxHandles, c.hasChild b i = true →
      (m.hasChild b i = true ↔ m'.hasChild b i = true)) :
    c.removeChildren m = c.removeChildren m' := by
  unfold Children.removeChildren
  congr 1
  apply BitVec.eq_of_getLsbD_eq
  intro k hk
  rw [BitVec.getLsbD_and, BitVec.getLsbD_and, BitVec.getLsbD_not,
    BitVec.getLsbD_not]
  cases hbit : c.bits.getLsbD k with
  | false => rfl
  | true =>
      have hk' := hc k hbit
      have hiff := h ⟨k, hk'⟩ (by rw [hasChild_eq]; exact hbit)
      rw [hasChild_eq, hasChild_eq] at hiff
      rw [Bool.eq_iff_iff.mpr hiff]

@[simp] theorem removeChildren_empty (c : Children) :
    c.removeChildren empty = c := by
  show Children.mk (c.bits &&& ~~~0#64) = c
  rw [BitVec.not_zero, BitVec.and_allOnes]

/-- A bitmap in range that has any children has one in a slot. -/
theorem InRange.exists_child {c : Children} (hc : InRange b c)
    (h : c.hasChildren = true) :
    ∃ i : Fin b.maxHandles, c.hasChild b i = true := by
  by_contra hno
  have hz : c.bits = 0 := by
    apply BitVec.eq_of_getLsbD_eq
    intro k _
    rw [BitVec.ofNat_eq_ofNat, BitVec.getLsbD_zero]
    cases hk : c.bits.getLsbD k with
    | false => rfl
    | true =>
        refine absurd ⟨⟨k, hc k hk⟩, ?_⟩ hno
        rw [hasChild_eq]
        exact hk
  have he : c = Children.empty := by
    cases c
    simp only [Children.empty, mk.injEq]
    exact hz
  rw [he] at h
  simp [hasChildren, isEmpty] at h

end Children

end Dpe
