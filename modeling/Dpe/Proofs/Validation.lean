import Dpe.Model.Validation
import Dpe.Proofs.WellFormed
import Mathlib.Data.Finset.Card

/-! # What the validator checks

    Each check of the validator passes exactly if a property of the state
    holds.  The checks of single contexts and of the handles are in this
    module, the search of the forest is in the next. -/

namespace Dpe

open Forest

variable {b : Build}

/-! ## Guards and loops -/

@[simp] theorem failIf_ok {c : Bool} {e : ValidationError} {u : Unit} :
    failIf c e = .ok u ↔ c = false := by
  cases c
  · exact ⟨fun _ => rfl, fun _ => rfl⟩
  · exact ⟨fun h => (by cases h), fun h => (by cases h)⟩

/-- A loop passes if its body passes for every element. -/
theorem forAll_ok {α : Type} {f : α → Except ValidationError Unit}
    {xs : List α} : forAll f xs = .ok () ↔ ∀ x ∈ xs, f x = .ok () := by
  induction xs with
  | nil => exact ⟨fun _ _ hx => (by cases hx), fun _ => rfl⟩
  | cons x xs ih =>
      rw [List.forall_mem_cons, ← ih, forAll]
      cases f x with
      | ok u => exact ⟨fun h => ⟨rfl, h⟩, fun h => h.2⟩
      | error e => exact ⟨fun h => (by cases h), fun h => (by cases h.1)⟩

theorem forAll_finRange {n : Nat} {f : Fin n → Except ValidationError Unit} :
    forAll f (List.finRange n) = .ok () ↔ ∀ i, f i = .ok () := by
  rw [forAll_ok]
  exact ⟨fun h i => h i (List.mem_finRange i), fun h i _ => h i⟩

/-- Two checks in a row pass if both pass. -/
theorem andThen_ok {x y : Except ValidationError Unit} :
    (do x; y) = .ok () ↔ x = .ok () ∧ y = .ok () := by
  cases x with
  | ok u => exact ⟨fun h => ⟨rfl, h⟩, fun h => h.2⟩
  | error e => exact ⟨fun h => (by cases h), fun h => (by cases h.1)⟩

/-- At most one slot counts. -/
theorem countP_finRange_le_one {n : Nat} {p : Fin n → Bool} :
    (List.finRange n).countP p ≤ 1 ↔
      ∀ i j, p i = true → p j = true → j = i := by
  have hnodup := (List.nodup_finRange n).filter p
  have hmem : ∀ i, i ∈ ((List.finRange n).filter p).toFinset ↔ p i = true := by
    intro i
    simp
  rw [List.countP_eq_length_filter, ← List.toFinset_card_of_nodup hnodup,
    Finset.card_le_one]
  constructor
  · intro h i j hi hj
    exact h j ((hmem j).mpr hj) i ((hmem i).mpr hi)
  · intro h j hj i hi
    exact h i j ((hmem i).mp hi) ((hmem j).mp hj)

/-! ## One context -/

/-- A context uses nothing that is not supported. -/
structure Context.Supported (c : Context b) (support : Support) : Prop where
  simulation : c.contextType = .simulation → support.simulation = true
  internalDice : c.usesInternalInputDice = true → support.internalDice = true
  internalInfo : c.usesInternalInputInfo = true → support.internalInfo = true
  x509 : c.parentIdx ≠ Context.ROOT_INDEX → c.allowX509 = true →
    support.x509 = true

/-- An inactive context without links, measurements and flags. -/
structure Context.Blank (c : Context b) : Prop where
  parentIdx : c.parentIdx = Context.ROOT_INDEX
  children : c.children = .empty
  tci : c.tci = .new b
  dice : c.usesInternalInputDice = false
  x509 : c.allowX509 = false
  info : c.usesInternalInputInfo = false

namespace State

variable {s : State b} {i : Fin b.maxHandles}

theorem checkSupport_ok {c : Context b} :
    s.checkSupport c = .ok () ↔ c.Supported s.support := by
  simp only [checkSupport, andThen_ok, failIf_ok, Bool.and_eq_false_iff,
    Bool.not_eq_false', beq_eq_false_iff_ne, bne_eq_false_iff_eq]
  constructor
  · rintro ⟨h1, h2, h3, h4⟩
    refine ⟨fun h => h1.resolve_right fun hn => hn h, fun h => ?_, fun h => ?_,
      fun hp h => ?_⟩
    · exact h2.resolve_right fun hn => by rw [h] at hn; cases hn
    · exact h3.resolve_right fun hn => by rw [h] at hn; cases hn
    · rcases h4 with (hroot | hx) | hno
      · exact absurd hroot hp
      · exact hx
      · rw [h] at hno
        cases hno
  · rintro ⟨h1, h2, h3, h4⟩
    refine ⟨?_, ?_, ?_, ?_⟩
    · by_cases h : c.contextType = .simulation
      · exact .inl (h1 h)
      · exact .inr h
    · cases h : c.usesInternalInputDice with
      | false => exact .inr rfl
      | true => exact .inl (h2 h)
    · cases h : c.usesInternalInputInfo with
      | false => exact .inr rfl
      | true => exact .inl (h3 h)
    · by_cases hp : c.parentIdx = Context.ROOT_INDEX
      · exact .inl (.inl hp)
      · cases h : c.allowX509 with
        | false => exact .inr rfl
        | true => exact .inl (.inr (h4 hp h))

theorem validateInactiveContext_ok {c : Context b} :
    validateInactiveContext c = .ok () ↔ c.Blank := by
  have hchildren : c.children.hasChildren = false ↔ c.children = .empty := by
    simp [Children.hasChildren, Children.isEmpty]
  simp only [validateInactiveContext, andThen_ok, failIf_ok,
    bne_eq_false_iff_eq, hchildren, Bool.or_eq_false_iff]
  constructor
  · rintro ⟨h1, h2, h3, ⟨h4, h5⟩, h6⟩
    exact ⟨h1, h2, h3, h4, h5, h6⟩
  · rintro ⟨h1, h2, h3, h4, h5, h6⟩
    exact ⟨h1, h2, h3, ⟨h4, h5⟩, h6⟩

/-- The links of a context are answered by those of its neighbours. -/
structure Linked (s : State b) (i : Fin b.maxHandles) : Prop where
  parent : (s.contexts i).parentIdx = Context.ROOT_INDEX ∨
    ∃ p, s.up i = some p ∧ s.Live p ∧
      (s.contexts p).children.hasChild b i.val = true
  child : ∀ c : Fin b.maxHandles,
    (s.contexts i).children.hasChild b c.val = true →
      s.Live c ∧ s.up c = some i
  inRange : (s.contexts i).children.InRange b

theorem get?_none {k : Nat} (h : b.maxHandles ≤ k) : s.get? k = none :=
  dif_neg (by omega)

theorem checkParent_ok :
    s.checkParent i = .ok () ↔ (s.contexts i).parentIdx = Context.ROOT_INDEX ∨
      ∃ p, s.up i = some p ∧ s.Live p ∧
        (s.contexts p).children.hasChild b i.val = true := by
  unfold checkParent
  by_cases hroot : (s.contexts i).parentIdx = Context.ROOT_INDEX
  · rw [if_neg (by simp [hroot])]
    exact ⟨fun _ => .inl hroot, fun _ => rfl⟩
  · rw [if_pos (by simpa using hroot)]
    by_cases hlt : (s.contexts i).parentIdx.toNat < b.maxHandles
    · obtain ⟨p, hp⟩ : ∃ p : Fin b.maxHandles,
          (s.contexts i).parentIdx.toNat = p.val := ⟨⟨_, hlt⟩, rfl⟩
      have hup : s.up i = some p := up_eq_some.mpr hp
      rw [hp, get?_fin]
      simp only [andThen_ok, failIf_ok, beq_eq_false_iff_ne, Bool.not_eq_false']
      constructor
      · rintro ⟨hlive, hbit⟩
        exact .inr ⟨p, hup, hlive, hbit⟩
      · rintro (hr | ⟨q, hq, hlive, hbit⟩)
        · exact absurd hr hroot
        · rw [hup] at hq
          cases hq
          exact ⟨hlive, hbit⟩
    · rw [get?_none (Nat.le_of_not_lt hlt)]
      constructor
      · intro h
        cases h
      · rintro (hr | ⟨q, hq, -⟩)
        · exact absurd hr hroot
        · rw [up_eq_some] at hq
          exact absurd q.isLt (by omega)

theorem mem_flagsIter {bits : BitVec 64} {max : Nat} {k : Fin max} :
    k ∈ flagsIter bits max ↔ bits.getLsbD k = true := by
  unfold flagsIter
  rw [List.mem_filter]
  exact ⟨fun h => h.2, fun h => ⟨List.mem_finRange k, h⟩⟩

/-- The loop over the 64 bits. -/
theorem checkChild_ok :
    forAll (s.checkChild i) (flagsIter (s.contexts i).children.bits 64) = .ok ()
      ↔ (s.contexts i).children.InRange b ∧ ∀ c : Fin b.maxHandles,
        (s.contexts i).children.hasChild b c.val = true →
          s.Live c ∧ s.up c = some i := by
  rw [forAll_ok]
  constructor
  · intro h
    have hrange : (s.contexts i).children.InRange b := by
      intro k hk
      by_contra hno
      have h64 : k < 64 := BitVec.lt_of_getLsbD hk
      have hpass := h ⟨k, h64⟩ (mem_flagsIter.mpr hk)
      rw [checkChild, get?_none (Nat.le_of_not_lt hno)] at hpass
      cases hpass
    refine ⟨hrange, fun c hc => ?_⟩
    have h64 : c.val < 64 := Nat.lt_of_lt_of_le c.isLt b.maxHandles_le
    rw [Children.hasChild_eq] at hc
    have hpass := h ⟨c.val, h64⟩ (mem_flagsIter.mpr hc)
    rw [checkChild, get?_fin] at hpass
    simp only [andThen_ok, failIf_ok, beq_eq_false_iff_ne,
      bne_eq_false_iff_eq] at hpass
    exact ⟨hpass.1, up_eq_some.mpr hpass.2⟩
  · rintro ⟨hrange, hchild⟩ k hk
    rw [mem_flagsIter] at hk
    obtain ⟨c, hc⟩ : ∃ c : Fin b.maxHandles, k.val = c.val :=
      ⟨⟨k.val, hrange k.val hk⟩, rfl⟩
    rw [hc] at hk
    obtain ⟨hlive, hup⟩ := hchild c ((Children.hasChild_eq _ c).symm ▸ hk)
    rw [checkChild, hc, get?_fin]
    simp only [andThen_ok, failIf_ok, beq_eq_false_iff_ne, bne_eq_false_iff_eq]
    exact ⟨hlive, up_eq_some.mp hup⟩

theorem checkChildrenAndParent_ok :
    s.checkChildrenAndParent i = .ok () ↔ s.Linked i := by
  simp only [checkChildrenAndParent, andThen_ok, failIf_ok, checkParent_ok,
    checkChild_ok, Bool.and_eq_false_iff, decide_eq_false_iff_not,
    bne_eq_false_iff_eq]
  constructor
  · rintro ⟨-, hparent, hrange, hchild⟩
    exact ⟨hparent, hchild, hrange⟩
  · rintro ⟨hparent, hchild, hrange⟩
    refine ⟨?_, hparent, hrange, hchild⟩
    rcases hparent with hroot | ⟨p, hup, -⟩
    · exact .inr hroot
    · rw [up_eq_some] at hup
      have hp := p.isLt
      exact .inl (by omega)

/-- What is checked of one context. -/
structure Checked (s : State b) (i : Fin b.maxHandles) : Prop where
  supported : (s.contexts i).Supported s.support
  blank : (s.contexts i).state = .inactive → (s.contexts i).Blank
  linked : s.Live i → s.Linked i
  initialized : (s.contexts i).state = .active →
    (s.contexts i).contextType = .normal → s.hasInitialized = true
  retired : (s.contexts i).state = .retired → ∃ c : Fin b.maxHandles,
    (s.contexts i).children.hasChild b c.val = true
  locality : (s.contexts i).locality = (s.contexts i).tci.locality

theorem validateContextState_ok :
    s.validateContextState i = .ok () ↔
      ((s.contexts i).state = .inactive → (s.contexts i).Blank) ∧
      (s.Live i → s.Linked i) ∧
      ((s.contexts i).state = .active →
        (s.contexts i).contextType = .normal → s.hasInitialized = true) ∧
      ((s.contexts i).state = .retired → ∃ c : Fin b.maxHandles,
        (s.contexts i).children.hasChild b c.val = true) := by
  have hcount : (((s.contexts i).children.iter b).length == 0) = false ↔
      ∃ c : Fin b.maxHandles, (s.contexts i).children.hasChild b c.val = true := by
    rw [beq_eq_false_iff_ne, ← Nat.pos_iff_ne_zero, List.length_pos_iff_exists_mem]
    exact exists_congr fun c => Children.mem_iter ..
  unfold validateContextState Live
  cases hs : (s.contexts i).state with
  | inactive =>
      rw [validateInactiveContext_ok]
      simp
  | active =>
      simp only [andThen_ok, failIf_ok, checkChildrenAndParent_ok,
        Bool.and_eq_false_iff, beq_eq_false_iff_ne, Bool.not_eq_false']
      constructor
      · rintro ⟨hinit, hlinked⟩
        exact ⟨fun h => (by cases h), fun _ => hlinked,
          fun _ hn => hinit.resolve_left fun h => h hn, fun h => (by cases h)⟩
      · rintro ⟨-, hlinked, hinit, -⟩
        refine ⟨?_, hlinked fun h => (by cases h)⟩
        by_cases hn : (s.contexts i).contextType = .normal
        · exact .inr (hinit trivial hn)
        · exact .inl hn
  | retired =>
      simp only [andThen_ok, failIf_ok, checkChildrenAndParent_ok, hcount]
      constructor
      · rintro ⟨hlinked, hchild⟩
        exact ⟨fun h => (by cases h), fun _ => hlinked, fun h => (by cases h),
          fun _ => hchild⟩
      · rintro ⟨-, hlinked, -, hchild⟩
        exact ⟨hlinked fun h => (by cases h), hchild trivial⟩

theorem validateContext_ok : s.validateContext i = .ok () ↔ s.Checked i := by
  have htype : ((s.contexts i).contextType != .normal
      && (s.contexts i).contextType != .simulation) = false := by
    cases (s.contexts i).contextType <;> rfl
  simp only [validateContext, andThen_ok, failIf_ok, checkSupport_ok,
    validateContextState_ok, htype, true_and, bne_eq_false_iff_eq]
  constructor
  · rintro ⟨h1, ⟨h2, h3, h4, h5⟩, h6⟩
    exact ⟨h1, h2, h3, h4, h5, h6⟩
  · rintro ⟨h1, h2, h3, h4, h5, h6⟩
    exact ⟨h1, ⟨h2, h3, h4, h5⟩, h6⟩

/-! ## The handles of a locality -/

/-- An active default context of a locality is the only active context
    there. -/
def Exclusive (s : State b) : Prop :=
  ∀ i j, (s.contexts i).state = .active → (s.contexts j).state = .active →
    (s.contexts i).locality = (s.contexts j).locality →
    (s.contexts i).handle = .default → j = i

/-- An active default context of the locality. -/
def countsDefault (s : State b) (locality : UInt32) (i : Fin b.maxHandles) :
    Bool :=
  ((s.contexts i).locality == locality && (s.contexts i).state == .active)
    && (s.contexts i).handle.isDefault

/-- An active context of the locality with another handle. -/
def countsNonDefault (s : State b) (locality : UInt32)
    (i : Fin b.maxHandles) : Bool :=
  ((s.contexts i).locality == locality && (s.contexts i).state == .active)
    && !(s.contexts i).handle.isDefault

/-- The counts only grow, so the loop passes if they are right at its
    end. -/
theorem countHandles_ok {locality : UInt32} {is : List (Fin b.maxHandles)}
    {d n : Nat} (hd : d ≤ 1) (hdn : d = 0 ∨ n = 0) :
    s.countHandles locality is d n = .ok () ↔
      d + is.countP (s.countsDefault locality) ≤ 1 ∧
      (d + is.countP (s.countsDefault locality) = 0 ∨
        n + is.countP (s.countsNonDefault locality) = 0) := by
  induction is generalizing d n with
  | nil => exact ⟨fun _ => ⟨hd, hdn⟩, fun _ => rfl⟩
  | cons i is ih =>
      obtain ⟨x, hx⟩ : ∃ x, x = if s.countsDefault locality i then 1 else 0 :=
        ⟨_, rfl⟩
      obtain ⟨y, hy⟩ : ∃ y, y = if s.countsNonDefault locality i then 1 else 0 :=
        ⟨_, rfl⟩
      have hstep : s.countHandles locality (i :: is) d n
          = if d + x > 1 then .error .multipleDefaultContexts
            else if d + x > 0 && n + y > 0 then .error .mixedContextLocality
            else s.countHandles locality is (d + x) (n + y) := by
        rw [hx, hy]
        rfl
      rw [hstep, List.countP_cons, List.countP_cons, ← hx, ← hy]
      by_cases h1 : d + x > 1
      · rw [if_pos h1]
        constructor
        · intro h
          cases h
        · rintro ⟨h, -⟩
          omega
      · rw [if_neg h1]
        by_cases h2 : d + x > 0 ∧ n + y > 0
        · rw [if_pos (by simpa using h2)]
          constructor
          · intro h
            cases h
          · rintro ⟨-, h⟩
            omega
        · rw [if_neg (by simpa using h2), ih (by omega) (by omega)]
          omega

theorem countHandles_finRange {locality : UInt32} :
    s.countHandles locality (List.finRange b.maxHandles) 0 0 = .ok () ↔
      ∀ i j, (s.contexts i).state = .active → (s.contexts j).state = .active →
        (s.contexts i).locality = locality → (s.contexts j).locality = locality →
        (s.contexts i).handle = .default → j = i := by
  rw [countHandles_ok (by omega) (by omega), Nat.zero_add, Nat.zero_add,
    List.countP_eq_zero, List.countP_eq_zero, countP_finRange_le_one]
  have hdefault : ∀ i, s.countsDefault locality i = true ↔
      (s.contexts i).state = .active ∧ (s.contexts i).locality = locality ∧
        (s.contexts i).handle = .default := by
    intro i
    simp only [countsDefault, Bool.and_eq_true, beq_iff_eq,
      ContextHandle.isDefault_iff]
    tauto
  have hnon : ∀ i, s.countsNonDefault locality i = true ↔
      (s.contexts i).state = .active ∧ (s.contexts i).locality = locality ∧
        (s.contexts i).handle ≠ .default := by
    intro i
    simp only [countsNonDefault, Bool.and_eq_true, beq_iff_eq,
      Bool.not_eq_true', ← Bool.not_eq_true, ContextHandle.isDefault_iff]
    tauto
  constructor
  · rintro ⟨hone, hmix⟩ i j hi hj hli hlj hh
    have hmem := (hdefault i).mpr ⟨hi, hli, hh⟩
    rcases hmix with hno | hno
    · exact absurd hmem (hno i (List.mem_finRange i))
    · have hdj : (s.contexts j).handle = .default := by
        by_contra hne
        exact hno j (List.mem_finRange j) ((hnon j).mpr ⟨hj, hlj, hne⟩)
      exact hone i j hmem ((hdefault j).mpr ⟨hj, hlj, hdj⟩)
  · intro h
    by_cases hex : ∃ i, s.countsDefault locality i = true
    · obtain ⟨i, hi⟩ := hex
      obtain ⟨hactive, hl, hh⟩ := (hdefault i).mp hi
      refine ⟨?_, .inr fun j _ hj => ?_⟩
      · intro k l hk hl'
        obtain ⟨hka, hkl, hkh⟩ := (hdefault k).mp hk
        obtain ⟨hla, hll, -⟩ := (hdefault l).mp hl'
        exact h k l hka hla hkl hll hkh
      · obtain ⟨hja, hjl, hne⟩ := (hnon j).mp hj
        have heq := h i j hactive hja hl hjl hh
        rw [heq] at hne
        exact hne hh
    · have hno : ∀ i ∈ List.finRange b.maxHandles,
          ¬ s.countsDefault locality i = true := fun i _ hi => hex ⟨i, hi⟩
      exact ⟨fun i _ hi => absurd hi (hno i (List.mem_finRange i)), .inl hno⟩

/-- **EXCLUSIVE LOCALITIES** are what the last check of the state is
    about. -/
theorem checkContextHandlesPerLocality_ok :
    s.checkContextHandlesPerLocality = .ok () ↔ s.Exclusive := by
  unfold checkContextHandlesPerLocality
  rw [forAll_finRange]
  constructor
  · intro h i j hi hj hl hh
    exact countHandles_finRange.mp (h i) i j hi hj rfl hl.symm hh
  · intro h k
    exact countHandles_finRange.mpr fun i j hi hj hli hlj hh =>
      h i j hi hj (hli.trans hlj.symm) hh

theorem validateDpeState_ok :
    s.validateDpeState = .ok () ↔ s.marker = MAGIC ∧ s.version = VERSION ∧
      (∀ i, s.Checked i) ∧ s.Exclusive := by
  simp only [validateDpeState, andThen_ok, failIf_ok, bne_eq_false_iff_eq,
    forAll_finRange, validateContext_ok, checkContextHandlesPerLocality_ok]

end State

end Dpe
