import Dpe.Proofs.Validation
import Mathlib.Data.Fintype.Card

/-! # The search of the forest

    The depth-first search ends within its levels on any state, since it
    marks a slot before it goes deeper.  If it accepts a state, whatever
    it has marked hangs below a root; and it accepts every forest. -/

namespace Dpe

open Forest

variable {b : Build}

namespace State

variable {s : State b} {t : ContextType} {seen seen' : Seen b}
  {i j : Fin b.maxHandles}

/-! ## It ends -/

/-- How many slots are left to visit. -/
def unseen (seen : Seen b) : Nat :=
  (Finset.univ.filter fun i => seen i = false).card

/-- `seen'` has at least the marks of `seen`. -/
def Marks (seen seen' : Seen b) : Prop := ∀ i, seen i = true → seen' i = true

theorem Marks.unseen_le (h : Marks seen seen') : unseen seen' ≤ unseen seen := by
  refine Finset.card_le_card fun i hi => ?_
  rw [Finset.mem_filter] at hi ⊢
  refine ⟨hi.1, ?_⟩
  by_contra hseen
  rw [h i (by simpa using hseen)] at hi
  cases hi.2

theorem marks_update (seen : Seen b) (i : Fin b.maxHandles) :
    Marks seen (Function.update seen i true) := by
  intro j hj
  by_cases hij : j = i
  · rw [hij, Function.update_self]
  · rw [Function.update_of_ne hij, hj]

/-- A new mark leaves one slot less to visit. -/
theorem unseen_update (hi : seen i = false) :
    unseen (Function.update seen i true) < unseen seen := by
  refine Finset.card_lt_card (Finset.ssubset_iff_subset_ne.mpr ⟨?_, ?_⟩)
  · intro j hj
    rw [Finset.mem_filter] at hj ⊢
    refine ⟨hj.1, ?_⟩
    by_contra hseen
    rw [marks_update seen i j (by simpa using hseen)] at hj
    cases hj.2
  · intro heq
    have hmem : i ∈ Finset.univ.filter fun j => seen j = false := by
      simpa using hi
    rw [← heq, Finset.mem_filter, Function.update_self] at hmem
    cases hmem.2

/-- The search ends, and it takes no mark back. -/
def Ends (r : Except Stop (Seen b)) (seen : Seen b) : Prop :=
  match r with
  | .ok seen' => Marks seen seen'
  | .error e => e ≠ .noReturn

theorem foldl_ends {f : Seen b → Fin b.maxHandles → Except Stop (Seen b)}
    {n : Nat} (hf : ∀ seen i, unseen seen ≤ n → Ends (f seen i) seen)
    (is : List (Fin b.maxHandles)) (hn : unseen seen ≤ n) :
    Ends (is.foldlM f seen) seen := by
  induction is generalizing seen with
  | nil => exact fun _ h => h
  | cons i is ih =>
      have hstep := hf seen i hn
      rw [List.foldlM_cons]
      cases hr : f seen i with
      | error e =>
          rw [hr] at hstep
          exact hstep
      | ok seen' =>
          rw [hr] at hstep
          have hrest := ih (hstep.unseen_le.trans hn)
          show Ends (is.foldlM f seen') seen
          cases hr' : is.foldlM f seen' with
          | error e =>
              rw [hr'] at hrest
              exact hrest
          | ok seen'' =>
              rw [hr'] at hrest
              exact fun k hk => hrest k (hstep k hk)

/-- **THE SEARCH ENDS** on every state, whatever its links. -/
theorem detectInvalidSubtree_ends {fuel : Nat} (hfuel : unseen seen < fuel) :
    Ends (s.detectInvalidSubtree t fuel seen i) seen := by
  induction fuel generalizing seen i with
  | zero => exact absurd hfuel (Nat.not_lt_zero _)
  | succ fuel ih =>
      unfold detectInvalidSubtree
      by_cases hbad : ((s.contexts i).state == .inactive || seen i) = true
      · rw [if_pos hbad]
        exact fun h => by cases h
      · rw [if_neg hbad]
        by_cases htype : ((s.contexts i).contextType != t) = true
        · rw [if_pos htype]
          exact fun h => by cases h
        · rw [if_neg htype]
          have hseen : seen i = false := by
            cases h : seen i with
            | false => rfl
            | true => simp [h] at hbad
          have hless := unseen_update hseen
          have hn : unseen (Function.update seen i true) ≤ fuel - 1 := by omega
          have hends := foldl_ends (f := s.detectInvalidSubtree t fuel)
            (fun seen i hn => ih (by omega)) ((s.contexts i).children.iter b) hn
          cases hr : ((s.contexts i).children.iter b).foldlM
              (s.detectInvalidSubtree t fuel) (Function.update seen i true) with
          | error e =>
              rw [hr] at hends
              exact hends
          | ok seen' =>
              rw [hr] at hends
              exact fun k hk => hends k (marks_update seen i k hk)

theorem unseen_le (seen : Seen b) : unseen seen ≤ b.maxHandles := by
  have h := Finset.card_le_univ (Finset.univ.filter fun i => seen i = false)
  rwa [Fintype.card_fin] at h

theorem visitRoots_ends {is : List (Fin b.maxHandles)} {n : Nat} :
    s.visitRoots is seen n ≠ .error .noReturn := by
  induction is generalizing seen n with
  | nil => exact fun h => by cases h
  | cons i is ih =>
      unfold visitRoots
      by_cases hroot : s.isRoot i = true
      · rw [if_pos hroot]
        have hends : Ends (s.detectInvalidSubtree (s.contexts i).contextType
            (b.maxHandles + 1) seen i) seen :=
          detectInvalidSubtree_ends (Nat.lt_succ_of_le (unseen_le seen))
        dsimp only
        cases hr : s.detectInvalidSubtree (s.contexts i).contextType
            (b.maxHandles + 1) seen i with
        | error e =>
            rw [hr] at hends
            intro h
            cases h
            exact hends rfl
        | ok seen' => exact ih
      · rw [if_neg hroot]
        exact ih

/-- **THE VALIDATOR ENDS** on every state. -/
theorem validateDpe_ends (s : State b) : s.validateDpe ≠ .error .noReturn := by
  unfold validateDpe
  cases s.validateDpeState with
  | error e => exact fun h => by cases h
  | ok _ =>
      show s.validateContextForest ≠ .error .noReturn
      unfold validateContextForest
      split
      · exact fun h => by cases h
      · cases hr : s.visitRoots (List.finRange b.maxHandles) (fun _ => false) 0 with
        | error e =>
            intro h
            cases h
            exact visitRoots_ends hr
        | ok r =>
            dsimp only
            split
            · exact fun h => by cases h
            · split <;> exact fun h => by cases h

/-! ## What it has marked -/

/-- Every new mark is in `R`. -/
def Within (R : Fin b.maxHandles → Prop) (r : Except Stop (Seen b))
    (seen : Seen b) : Prop :=
  ∀ seen', r = .ok seen' → ∀ j, seen' j = true → seen j = true ∨ R j

theorem foldl_within {R : Fin b.maxHandles → Prop}
    {f : Seen b → Fin b.maxHandles → Except Stop (Seen b)}
    {is : List (Fin b.maxHandles)} (hf : ∀ seen, ∀ i ∈ is, Within R (f seen i) seen) :
    Within R (is.foldlM f seen) seen := by
  induction is generalizing seen with
  | nil =>
      intro seen' hr j hj
      cases hr
      exact .inl hj
  | cons i is ih =>
      intro seen'' hr j hj
      rw [List.foldlM_cons] at hr
      cases hr' : f seen i with
      | error e =>
          rw [hr'] at hr
          cases hr
      | ok seen' =>
          rw [hr'] at hr
          have hrest : Within R (is.foldlM f seen') seen' :=
            ih fun seen k hk => hf seen k (List.mem_cons_of_mem _ hk)
          rcases hrest seen'' hr j hj with hj' | hR
          · exact hf seen i (List.mem_cons_self ..) seen' hr' j hj'
          · exact .inr hR

/-- **WHAT A SEARCH MARKS** hangs below its start and has its type. -/
theorem detectInvalidSubtree_within (hlinked : ∀ i, s.Live i → s.Linked i)
    {fuel : Nat} : Within (fun j => Subtree s.up i j ∧
      (s.contexts j).contextType = t) (s.detectInvalidSubtree t fuel seen i)
      seen := by
  induction fuel generalizing seen i with
  | zero =>
      intro seen' hr
      cases hr
  | succ fuel ih =>
      unfold detectInvalidSubtree
      by_cases hbad : ((s.contexts i).state == .inactive || seen i) = true
      · rw [if_pos hbad]
        intro seen' hr
        cases hr
      · rw [if_neg hbad]
        by_cases htype : ((s.contexts i).contextType != t) = true
        · rw [if_pos htype]
          intro seen' hr
          cases hr
        · rw [if_neg htype]
          have hlive : s.Live i := by
            intro hi
            simp [hi] at hbad
          have hbelow : Within (fun j => Subtree s.up i j ∧
              (s.contexts j).contextType = t)
              (((s.contexts i).children.iter b).foldlM
                (s.detectInvalidSubtree t fuel) (Function.update seen i true))
              (Function.update seen i true) := by
            refine foldl_within fun seen k hk seen' hr j hj => ?_
            have hup := ((hlinked i hlive).child k
              ((Children.mem_iter ..).mp hk)).2
            rcases ih seen' hr j hj with hj' | ⟨hsub, htj⟩
            · exact .inl hj'
            · exact .inr ⟨((Subtree.refl i).child hup).trans hsub, htj⟩
          intro seen' hr j hj
          rcases hbelow seen' hr j hj with hj' | hR
          · by_cases hji : j = i
            · rw [hji]
              exact .inr ⟨Subtree.refl i, by simpa using htype⟩
            · rw [Function.update_of_ne hji] at hj'
              exact .inl hj'
          · exact .inr hR

/-! ## Roots -/

/-- In a checked state both kinds of links agree. -/
theorem child_iff_of_checked (h : ∀ i, s.Checked i) (p c : Fin b.maxHandles) :
    (s.contexts p).children.hasChild b c.val = true ↔ s.up c = some p := by
  constructor
  · intro hc
    refine (((h p).linked fun hp => ?_).child c hc).2
    rw [((h p).blank hp).children, Children.hasChild_empty] at hc
    cases hc
  · intro hup
    have hlive : s.Live c := by
      intro hc
      rw [up_of_root ((h c).blank hc).parentIdx] at hup
      cases hup
    rcases ((h c).linked hlive).parent with hroot | ⟨q, hq, -, hbit⟩
    · rw [up_of_root hroot] at hup
      cases hup
    · rw [hup] at hq
      cases hq
      exact hbit

variable (hchild : ∀ p c, (s.contexts p).children.hasChild b c.val = true ↔
  s.up c = some p)

include hchild

theorem inDegree_eq_zero : s.inDegree i = 0 ↔ s.up i = none := by
  have hmem : i ∈ ((List.finRange b.maxHandles).flatMap fun p =>
      (s.contexts p).children.iter b) ↔ ∃ p, s.up i = some p := by
    simp only [List.mem_flatMap, List.mem_finRange, true_and, Children.mem_iter,
      hchild]
  unfold inDegree
  rw [List.count_eq_zero, hmem, Option.eq_none_iff_forall_ne_some]
  exact ⟨fun h p hp => h ⟨p, hp⟩, fun h ⟨p, hp⟩ => h p hp⟩

/-- A slot is the child of one context at most. -/
theorem inDegree_le_one : s.inDegree i ≤ 1 := by
  refine List.nodup_iff_count_le_one.mp (List.nodup_flatMap.mpr ⟨?_, ?_⟩) i
  · exact fun p _ => Children.nodup_iter _
  · refine (List.nodup_finRange b.maxHandles).imp fun {p q} hne => ?_
    intro c hp hq
    rw [Children.mem_iter, hchild] at hp hq
    rw [hp] at hq
    cases hq
    exact hne rfl

theorem isRoot_iff : s.isRoot i = true ↔ s.Live i ∧ s.up i = none := by
  unfold isRoot
  rw [Bool.and_eq_true, beq_iff_eq, inDegree_eq_zero hchild, bne_iff_ne]
  exact and_comm

omit hchild

/-! ## What is accepted is a forest -/

/-- A normal root. -/
def isNormalRoot (s : State b) (i : Fin b.maxHandles) : Bool :=
  s.isRoot i && (s.contexts i).contextType == .normal

theorem visitRoots_within (hlinked : ∀ i, s.Live i → s.Linked i)
    {is : List (Fin b.maxHandles)} {n n' : Nat}
    (hr : s.visitRoots is seen n = .ok (seen', n')) :
    n' = n + is.countP s.isNormalRoot ∧ ∀ j, seen' j = true → seen j = true ∨
      ∃ r, s.isRoot r = true ∧ Subtree s.up r j ∧
        (s.contexts j).contextType = (s.contexts r).contextType := by
  induction is generalizing seen n with
  | nil =>
      cases hr
      exact ⟨rfl, fun j hj => .inl hj⟩
  | cons i is ih =>
      unfold visitRoots at hr
      rw [List.countP_cons]
      by_cases hroot : s.isRoot i = true
      · rw [if_pos hroot] at hr
        dsimp only at hr
        have hwithin : Within (fun j => Subtree s.up i j ∧
            (s.contexts j).contextType = (s.contexts i).contextType)
            (s.detectInvalidSubtree (s.contexts i).contextType
              (b.maxHandles + 1) seen i) seen :=
          detectInvalidSubtree_within hlinked
        cases hd : s.detectInvalidSubtree (s.contexts i).contextType
            (b.maxHandles + 1) seen i with
        | error e =>
            rw [hd] at hr
            cases hr
        | ok seen₁ =>
            rw [hd] at hr
            obtain ⟨hn, hmarks⟩ := ih hr
            refine ⟨?_, fun j hj => ?_⟩
            · rw [hn, isNormalRoot, hroot, Bool.true_and]
              omega
            · rcases hmarks j hj with hj' | hR
              · rcases hwithin seen₁ hd j hj' with hj'' | ⟨hsub, ht⟩
                · exact .inl hj''
                · exact .inr ⟨i, hroot, hsub, ht⟩
              · exact .inr hR
      · rw [if_neg hroot] at hr
        obtain ⟨hn, hmarks⟩ := ih hr
        refine ⟨?_, hmarks⟩
        rw [hn, isNormalRoot, Bool.eq_false_iff.mpr hroot]
        rfl

/-- Checked contexts that all hang below roots of their types, one normal
    root among them, are a forest. -/
theorem wellFormed_of_checked (h : ∀ i, s.Checked i)
    (hreached : ∀ i, s.Live i → ∃ r, s.Live r ∧ s.up r = none ∧
      Subtree s.up r i ∧ (s.contexts i).contextType = (s.contexts r).contextType)
    (hone : ∀ i j, s.isNormalRoot i = true → s.isNormalRoot j = true → j = i) :
    s.WellFormed := by
  have hchild := child_iff_of_checked h
  have hlive : ∀ p c, s.up c = some p → s.Live c ∧ s.Live p := by
    intro p c hup
    refine ⟨fun hc => ?_, fun hp => ?_⟩
    · rw [up_of_root ((h c).blank hc).parentIdx] at hup
      cases hup
    · have hbit := (hchild p c).mpr hup
      rw [((h p).blank hp).children, Children.hasChild_empty] at hbit
      cases hbit
  have hroot : ∀ i, s.up i = none →
      (s.contexts i).parentIdx = Context.ROOT_INDEX := by
    intro i hup
    by_cases hi : s.Live i
    · rcases ((h i).linked hi).parent with hr | ⟨p, hp, -⟩
      · exact hr
      · rw [hup] at hp
        cases hp
    · exact ((h i).blank (by simpa [Live] using hi)).parentIdx
  have hrooted : ∀ i, s.Live i → Rooted s.up i := by
    intro i hi
    obtain ⟨r, -, hup, hsub, -⟩ := hreached i hi
    exact hsub.rooted ⟨[r], .root hup⟩
  have htype : ∀ p c, s.up c = some p →
      (s.contexts c).contextType = (s.contexts p).contextType := by
    intro p c hup
    obtain ⟨hc, hp⟩ := hlive p c hup
    obtain ⟨r, -, hr, hsub, ht⟩ := hreached c hc
    obtain ⟨r', -, hr', hsub', ht'⟩ := hreached p hp
    rw [ht, ht', hsub.root_unique (hsub'.child hup) hr hr']
  have hnormal : ∀ i j, s.Live i → s.Live j →
      (s.contexts i).contextType = .normal →
      (s.contexts j).contextType = .normal →
      s.up i = none → s.up j = none → i = j := by
    intro i j hi hj hti htj hui huj
    have hmark : ∀ k, s.Live k → (s.contexts k).contextType = .normal →
        s.up k = none → s.isNormalRoot k = true := by
      intro k hk htk huk
      unfold isNormalRoot
      rw [(isRoot_iff hchild).mpr ⟨hk, huk⟩, htk]
      rfl
    exact (hone i j (hmark i hi hti hui) (hmark j hj htj huj)).symm
  have hretired : ∀ i, (s.contexts i).state = .retired → ∃ c, s.up c = some i := by
    intro i hi
    obtain ⟨c, hc⟩ := (h i).retired hi
    exact ⟨c, (hchild i c).mp hc⟩
  have hblank : ∀ i, (s.contexts i).state = .inactive →
      (s.contexts i).parentIdx = Context.ROOT_INDEX ∧
        (s.contexts i).children = .empty ∧ (s.contexts i).tci = .new b :=
    fun i hi => ⟨((h i).blank hi).parentIdx, ((h i).blank hi).children,
      ((h i).blank hi).tci⟩
  have hrange : ∀ i, (s.contexts i).children.InRange b := by
    intro i
    by_cases hi : s.Live i
    · exact ((h i).linked hi).inRange
    · rw [((h i).blank (by simpa [Live] using hi)).children]
      exact .empty
  -- the flag is checked of active contexts only: a retired one has an
  -- active one below it
  have hflag : WellFormed { s with hasInitialized := true } :=
    ⟨hchild, hroot, hrooted, htype, hnormal, fun _ _ _ => rfl, hretired, hblank,
      hrange⟩
  refine ⟨hchild, hroot, hrooted, htype, hnormal, ?_, hretired, hblank, hrange⟩
  intro i hi hn
  cases hs : (s.contexts i).state with
  | inactive => exact absurd hs hi
  | active => exact (h i).initialized hs hn
  | retired =>
      obtain ⟨j, hbelow, hj⟩ := hflag.active_below hs
      refine (h j).initialized hj ?_
      exact (hflag.type_subtree hbelow.to_reflTransGen).trans hn

/-- **WHAT THE SEARCH ACCEPTS IS A FOREST**, if the single contexts have
    passed their checks. -/
theorem wellFormed_of_valid (h : ∀ i, s.Checked i)
    (hforest : s.validateContextForest = .ok ()) : s.WellFormed := by
  have hchild := child_iff_of_checked h
  unfold validateContextForest at hforest
  split at hforest
  · cases hforest
  · cases hv : s.visitRoots (List.finRange b.maxHandles) (fun _ => false) 0 with
    | error e =>
        rw [hv] at hforest
        cases hforest
    | ok r =>
        obtain ⟨seen, n⟩ := r
        rw [hv] at hforest
        dsimp only at hforest
        split at hforest
        · cases hforest
        · rename_i hcount
          split at hforest
          · cases hforest
          · rename_i hall
            obtain ⟨hn, hmarks⟩ := visitRoots_within (fun i => (h i).linked) hv
            have hreached : ∀ i, s.Live i → ∃ r, s.Live r ∧ s.up r = none ∧
                Subtree s.up r i ∧
                (s.contexts i).contextType = (s.contexts r).contextType := by
              intro i hi
              have hseen : seen i = true := by
                by_contra hno
                refine hall (List.any_eq_true.mpr ⟨i, List.mem_finRange i, ?_⟩)
                rw [Bool.and_eq_true, bne_iff_ne, Bool.not_eq_true']
                exact ⟨hi, by simpa using hno⟩
              rcases hmarks i hseen with hf | ⟨r, hr, hsub, ht⟩
              · cases hf
              · obtain ⟨hlive, hroot⟩ := (isRoot_iff hchild).mp hr
                exact ⟨r, hlive, hroot, hsub, ht⟩
            refine wellFormed_of_checked h hreached (countP_finRange_le_one.mp ?_)
            omega

/-! ## Every forest is accepted -/

theorem foldl_subtrees {f : Seen b → Fin b.maxHandles → Except Stop (Seen b)}
    {is : List (Fin b.maxHandles)}
    (hf : ∀ seen, ∀ i ∈ is, (∀ j, Subtree s.up i j → seen j = false) →
      ∃ seen', f seen i = .ok seen' ∧
        ∀ j, seen' j = true ↔ seen j = true ∨ Subtree s.up i j)
    (hdisjoint : is.Pairwise fun i i' =>
      ∀ j, Subtree s.up i j → ¬ Subtree s.up i' j)
    (hseen : ∀ i ∈ is, ∀ j, Subtree s.up i j → seen j = false) :
    ∃ seen', is.foldlM f seen = .ok seen' ∧
      ∀ j, seen' j = true ↔ seen j = true ∨ ∃ i ∈ is, Subtree s.up i j := by
  induction is generalizing seen with
  | nil => exact ⟨seen, rfl, fun j => by simp⟩
  | cons i is ih =>
      obtain ⟨hhead, htail⟩ := List.pairwise_cons.mp hdisjoint
      obtain ⟨seen₁, hrun, hmarks⟩ := hf seen i (List.mem_cons_self ..)
        (hseen i (List.mem_cons_self ..))
      have hrest : ∀ k ∈ is, ∀ j, Subtree s.up k j → seen₁ j = false := by
        intro k hk j hj
        by_contra hno
        rcases (hmarks j).mp (by simpa using hno) with hj' | hij
        · rw [hseen k (List.mem_cons_of_mem _ hk) j hj] at hj'
          cases hj'
        · exact hhead k hk j hij hj
      obtain ⟨seen₂, hrun', hmarks'⟩ := ih
        (fun seen k hk => hf seen k (List.mem_cons_of_mem _ hk)) htail hrest
      refine ⟨seen₂, ?_, fun j => ?_⟩
      · rw [List.foldlM_cons, hrun]
        exact hrun'
      · rw [hmarks', hmarks]
        simp only [List.mem_cons, exists_eq_or_imp, or_assoc]

/-- The subtrees of two children of one context are apart. -/
theorem WellFormed.children_disjoint (h : s.WellFormed) {p c c' : Fin b.maxHandles}
    (hc : s.up c = some p) (hc' : s.up c' = some p) (hne : c ≠ c')
    (hj : Subtree s.up c j) : ¬ Subtree s.up c' j := by
  intro hj'
  have hno : ∀ {c c' : Fin b.maxHandles}, s.up c = some p → s.up c' = some p →
      c ≠ c' → ¬ Subtree s.up c c' := by
    intro c c' hc hc' hne hsub
    obtain ⟨q, hq, hqsub⟩ := hsub.parent_mem fun heq => hne heq.symm
    rw [hc'] at hq
    cases hq
    exact h.not_below_self (h.live_parent hc)
      (Relation.TransGen.head' hc hqsub)
  rcases hj.comparable hj' with hsub | hsub
  · exact hno hc hc' hne hsub
  · exact hno hc' hc (fun heq => hne heq.symm) hsub

/-- **A SUBTREE IS SEARCHED** to its end, and all of it is marked. -/
theorem detectInvalidSubtree_spec (h : s.WellFormed) {fuel : Nat}
    {l : List (Fin b.maxHandles)} (hpath : Path s.up i l) (hlive : s.Live i)
    (hfuel : b.maxHandles + 1 ≤ fuel + l.length)
    (hseen : ∀ j, Subtree s.up i j → seen j = false)
    (ht : (s.contexts i).contextType = t) :
    ∃ seen', s.detectInvalidSubtree t fuel seen i = .ok seen' ∧
      ∀ j, seen' j = true ↔ seen j = true ∨ Subtree s.up i j := by
  induction fuel generalizing i l seen with
  | zero =>
      have hlen := hpath.length_le
      rw [Fintype.card_fin] at hlen
      omega
  | succ fuel ih =>
      have hmem : ∀ c, c ∈ (s.contexts i).children.iter b ↔ s.up c = some i :=
        fun c => (Children.mem_iter ..).trans (h.child_iff i c)
      have hself : ∀ c, s.up c = some i → ¬ Subtree s.up c i := fun c hc hsub =>
        h.not_below_self (h.live_child hc) (Relation.TransGen.tail' hsub hc)
      have hstep : ∀ seen, ∀ c ∈ (s.contexts i).children.iter b,
          (∀ j, Subtree s.up c j → seen j = false) →
          ∃ seen', s.detectInvalidSubtree t fuel seen c = .ok seen' ∧
            ∀ j, seen' j = true ↔ seen j = true ∨ Subtree s.up c j := by
        intro seen c hc hseen
        have hup := (hmem c).mp hc
        refine ih (.step hup hpath) (h.live_child hup) ?_ hseen ?_
        · rw [List.length_cons]
          omega
        · rw [h.type_eq i c hup, ht]
      have hdisjoint : ((s.contexts i).children.iter b).Pairwise fun c c' =>
          ∀ j, Subtree s.up c j → ¬ Subtree s.up c' j := by
        refine (Children.nodup_iter _).imp_of_mem fun {c c'} hc hc' hne => ?_
        exact fun j hj => h.children_disjoint ((hmem c).mp hc)
          ((hmem c').mp hc') hne hj
      have hfresh : ∀ c ∈ (s.contexts i).children.iter b, ∀ j,
          Subtree s.up c j → Function.update seen i true j = false := by
        intro c hc j hj
        have hup := (hmem c).mp hc
        have hji : j ≠ i := by
          rintro rfl
          exact hself c hup hj
        rw [Function.update_of_ne hji]
        exact hseen j (((Subtree.refl i).child hup).trans hj)
      obtain ⟨seen', hrun, hmarks⟩ := foldl_subtrees hstep hdisjoint hfresh
      refine ⟨seen', ?_, fun j => ?_⟩
      · unfold detectInvalidSubtree
        have hstate : ((s.contexts i).state == .inactive) = false := by
          simpa [Live] using hlive
        rw [hstate, hseen i (Subtree.refl i), ht, Bool.false_or,
          if_neg Bool.false_ne_true, if_neg (by simp)]
        exact hrun
      · rw [hmarks, subtree_iff_head]
        by_cases hji : j = i
        · rw [hji, Function.update_self]
          exact ⟨fun _ => .inr (.inl rfl), fun _ => .inl rfl⟩
        · rw [Function.update_of_ne hji]
          simp only [hmem, hji, false_or]

theorem visitRoots_spec (h : s.WellFormed) {is : List (Fin b.maxHandles)}
    {n : Nat} (hnodup : is.Nodup)
    (hseen : ∀ i ∈ is, s.isRoot i = true → ∀ j, Subtree s.up i j → seen j = false) :
    ∃ seen', s.visitRoots is seen n = .ok (seen', n + is.countP s.isNormalRoot) ∧
      ∀ j, seen' j = true ↔ seen j = true ∨
        ∃ i ∈ is, s.isRoot i = true ∧ Subtree s.up i j := by
  induction is generalizing seen n with
  | nil => exact ⟨seen, rfl, fun j => by simp⟩
  | cons i is ih =>
      obtain ⟨hnot, hnodup⟩ := List.nodup_cons.mp hnodup
      rw [List.countP_cons]
      unfold visitRoots
      by_cases hroot : s.isRoot i = true
      · obtain ⟨hlive, hup⟩ := (isRoot_iff h.child_iff).mp hroot
        obtain ⟨seen₁, hrun, hmarks⟩ := detectInvalidSubtree_spec h
          (.root hup) hlive (Nat.le_add_right ..)
          (hseen i (List.mem_cons_self ..) hroot) rfl
        have hrest : ∀ k ∈ is, s.isRoot k = true → ∀ j, Subtree s.up k j →
            seen₁ j = false := by
          intro k hk hkroot j hj
          by_contra hno
          rcases (hmarks j).mp (by simpa using hno) with hj' | hij
          · rw [hseen k (List.mem_cons_of_mem _ hk) hkroot j hj] at hj'
            cases hj'
          · have heq := hij.root_unique hj hup
              ((isRoot_iff h.child_iff).mp hkroot).2
            rw [heq] at hnot
            exact hnot hk
        obtain ⟨seen₂, hrun', hmarks'⟩ := ih hnodup hrest
        refine ⟨seen₂, ?_, fun j => ?_⟩
        · rw [if_pos hroot]
          dsimp only
          rw [hrun]
          dsimp only
          rw [hrun', isNormalRoot, hroot, Bool.true_and, Nat.add_right_comm,
            Nat.add_assoc]
        · rw [hmarks', hmarks]
          simp only [List.mem_cons, exists_eq_or_imp, hroot, true_and, or_assoc]
      · obtain ⟨seen', hrun, hmarks⟩ := ih hnodup
          fun k hk => hseen k (List.mem_cons_of_mem _ hk)
        refine ⟨seen', ?_, fun j => ?_⟩
        · rw [if_neg hroot, hrun, isNormalRoot, Bool.eq_false_iff.mpr hroot]
          rfl
        · rw [hmarks]
          simp only [List.mem_cons, exists_eq_or_imp, hroot, false_and, false_or,
            Bool.false_eq_true]

/-- **EVERY FOREST IS ACCEPTED**. -/
theorem validateContextForest_ok (h : s.WellFormed) :
    s.validateContextForest = .ok () := by
  have hfresh : ∀ i ∈ List.finRange b.maxHandles, s.isRoot i = true →
      ∀ j, Subtree s.up i j → (fun _ => false : Seen b) j = false :=
    fun _ _ _ _ _ => rfl
  obtain ⟨seen, hrun, hmarks⟩ := visitRoots_spec h (n := 0)
    (List.nodup_finRange b.maxHandles) hfresh
  have hdegree : ¬ ((List.finRange b.maxHandles).any fun i =>
      decide (1 < s.inDegree i)) = true := by
    rw [List.any_eq_true]
    rintro ⟨i, -, hi⟩
    have hle := inDegree_le_one h.child_iff (i := i)
    rw [decide_eq_true_eq] at hi
    omega
  have hcount : (List.finRange b.maxHandles).countP s.isNormalRoot ≤ 1 := by
    refine countP_finRange_le_one.mpr fun i j hi hj => ?_
    have hroot : ∀ {k}, s.isNormalRoot k = true → s.Live k ∧ s.up k = none ∧
        (s.contexts k).contextType = .normal := by
      intro k hk
      rw [isNormalRoot, Bool.and_eq_true, isRoot_iff h.child_iff, beq_iff_eq] at hk
      exact ⟨hk.1.1, hk.1.2, hk.2⟩
    obtain ⟨hil, hiu, hin⟩ := hroot hi
    obtain ⟨hjl, hju, hjn⟩ := hroot hj
    exact h.one_normal j i hjl hil hjn hin hju hiu
  have hall : ¬ ((List.finRange b.maxHandles).any fun i =>
      (s.contexts i).state != .inactive && !seen i) = true := by
    rw [List.any_eq_true]
    rintro ⟨i, -, hi⟩
    rw [Bool.and_eq_true, bne_iff_ne, Bool.not_eq_true'] at hi
    obtain ⟨r, hr, hsub⟩ := (h.rooted i hi.1).exists_root
    have hmark := (hmarks i).mpr (.inr ⟨r, List.mem_finRange r,
      (isRoot_iff h.child_iff).mpr ⟨h.live_above hi.1 hsub, hr⟩, hsub⟩)
    rw [hi.2] at hmark
    cases hmark
  unfold validateContextForest
  rw [if_neg hdegree, hrun]
  dsimp only
  rw [if_neg (by omega), if_neg hall]

/-- **THE VALIDATOR** accepts the marked states whose contexts pass their
    checks and are a forest, and whose localities are exclusive. -/
theorem validateDpe_ok :
    s.validateDpe = .ok () ↔ s.marker = MAGIC ∧ s.version = VERSION ∧
      (∀ i, s.Checked i) ∧ s.Exclusive ∧ s.WellFormed := by
  unfold validateDpe
  cases hstate : s.validateDpeState with
  | error e =>
      constructor
      · intro h
        cases h
      · rintro ⟨h1, h2, h3, h4, -⟩
        rw [validateDpeState_ok.mpr ⟨h1, h2, h3, h4⟩] at hstate
        cases hstate
  | ok u =>
      obtain ⟨h1, h2, h3, h4⟩ := validateDpeState_ok.mp hstate
      constructor
      · intro h
        exact ⟨h1, h2, h3, h4, wellFormed_of_valid h3 h⟩
      · rintro ⟨-, -, -, -, h⟩
        exact validateContextForest_ok h

end State

end Dpe
