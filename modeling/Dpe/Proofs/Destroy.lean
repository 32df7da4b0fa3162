import Dpe.Abstract.Edit
import Dpe.Commands.Context

/-! # Destruction — two walks and one cut

    `destroy_context` collects what it destroys in two walks: down the
    child bits to the descendants, and up the parent indices through
    retired contexts with a single child.  In a forest both walks end
    within their bounds, and what they collect together is one subtree:
    that of the highest context the second walk has reached. -/

namespace Dpe

open Forest

variable {b : Build}

namespace State

variable {s : State b} {i p top : Fin b.maxHandles}

/-! ## Down -/

/-- Collecting the descendants of a list of children. -/
theorem foldDescendants {fuel : Nat} {cs : List (Fin b.maxHandles)}
    (hcs : ∀ c ∈ cs, ∃ below, s.getDescendants fuel (s.contexts c) = .ok below ∧
      ∀ j : Fin b.maxHandles, below.hasChild b j = true ↔ Below s.up c j)
    (acc : Children) :
    ∃ all, cs.foldlM (fun descendants idx => do
        let below ← s.getDescendants fuel (s.contexts idx)
        Except.ok (descendants.addChildren below)) acc
          = (Except.ok all : Except Stop Children) ∧
      ∀ j : Fin b.maxHandles, all.hasChild b j = true ↔
        acc.hasChild b j = true ∨ ∃ c ∈ cs, Below s.up c j := by
  induction cs generalizing acc with
  | nil => exact ⟨acc, rfl, fun j => by simp⟩
  | cons c cs ih =>
      obtain ⟨below, hrun, hbelow⟩ := hcs c (List.mem_cons_self ..)
      obtain ⟨all, hall, hmem⟩ :=
        ih (fun c hc => hcs c (List.mem_cons_of_mem _ hc)) (acc.addChildren below)
      refine ⟨all, ?_, ?_⟩
      · rw [List.foldlM_cons, hrun]
        exact hall
      · intro j
        rw [hmem, Children.hasChild_addChildren, hbelow]
        simp only [List.mem_cons, exists_eq_or_imp, or_assoc]

/-- **DOWN**: on the path `l` of `i` there is room for the rest of the
    levels, and the walk finds what lies below `i`. -/
theorem getDescendants_spec (h : s.WellLinked) {fuel : Nat}
    {l : List (Fin b.maxHandles)} (hpath : Path s.up i l) (hlive : s.Live i)
    (hfuel : b.maxHandles + 1 ≤ fuel + l.length) :
    ∃ below, s.getDescendants fuel (s.contexts i) = .ok below ∧
      ∀ j : Fin b.maxHandles, below.hasChild b j = true ↔ Below s.up i j := by
  induction fuel generalizing i l with
  | zero =>
      have hlen := hpath.length_le
      rw [Fintype.card_fin] at hlen
      omega
  | succ fuel ih =>
      have hcs : ∀ c ∈ (s.contexts i).children.iter b,
          ∃ below, s.getDescendants fuel (s.contexts c) = .ok below ∧
            ∀ j : Fin b.maxHandles, below.hasChild b j = true ↔ Below s.up c j := by
        intro c hc
        have hup := (h.child_iff i c).mp ((Children.mem_iter ..).mp hc)
        refine ih (.step hup hpath) (h.live_child hup) ?_
        rw [List.length_cons]
        omega
      obtain ⟨all, hall, hmem⟩ := foldDescendants hcs (s.contexts i).children
      refine ⟨all, ?_, ?_⟩
      · unfold getDescendants
        rw [if_neg hlive]
        exact hall
      · intro j
        have hhead : Below s.up i j ↔
            ∃ c, s.up c = some i ∧ Subtree s.up c j :=
          Relation.TransGen.head'_iff
        have hdown : ∀ c, Subtree s.up c j ↔ c = j ∨ Below s.up c j :=
          fun c => Relation.reflTransGen_iff_eq_or_transGen.trans
            (or_congr_left eq_comm)
        have hchild : ∀ c, c ∈ (s.contexts i).children.iter b ↔ s.up c = some i :=
          fun c => (Children.mem_iter ..).trans (h.child_iff i c)
        rw [hmem, h.child_iff, hhead]
        constructor
        · rintro (hj | ⟨c, hc, hbelow⟩)
          · exact ⟨j, hj, Subtree.refl j⟩
          · exact ⟨c, (hchild c).mp hc, (hdown c).mpr (.inr hbelow)⟩
        · rintro ⟨c, hc, hsub⟩
          rcases (hdown c).mp hsub with rfl | hbelow
          · exact .inl hc
          · exact .inr ⟨c, (hchild c).mpr hc, hbelow⟩

/-! ## Up -/

/-- `top` is the highest context above `i` that is reached from `i`
    through retired contexts with a single child. -/
inductive Summit (s : State b) : Fin b.maxHandles → Fin b.maxHandles → Prop where
  | stop {i : Fin b.maxHandles} (h : ∀ p, ¬ Edit.OnlyChild s p i) : Summit s i i
  | climb {i p top : Fin b.maxHandles} (h : Edit.OnlyChild s p i)
      (ht : Summit s p top) : Summit s i top

theorem Summit.above (h : Summit s i top) : Subtree s.up top i := by
  induction h with
  | stop => exact Subtree.refl _
  | climb h _ ih => exact ih.child h.1

theorem Summit.ends (h : Summit s i top) (p : Fin b.maxHandles) :
    ¬ Edit.OnlyChild s p top := by
  induction h with
  | stop h => exact h p
  | climb _ _ ih => exact ih

/-- Between the summit and where the walk started, every context is
    retired. -/
theorem Summit.retired (h : Summit s i top) (j : Fin b.maxHandles)
    (hj : Subtree s.up top j) (hi : ¬ Subtree s.up i j) :
    (s.contexts j).state = .retired ∧ Below s.up j i := by
  induction h with
  | stop => exact absurd hj hi
  | @climb i p top h _ ih =>
      by_cases hp : Subtree s.up p j
      · rcases subtree_iff_head.mp hp with rfl | ⟨c, hc, hsub⟩
        · exact ⟨h.2.1, .single h.1⟩
        · rw [h.2.2 c hc] at hsub
          exact absurd hsub hi
      · obtain ⟨hr, hb⟩ := ih hj hp
        exact ⟨hr, hb.tail h.1⟩

/-- The subtree of a parent with a single child. -/
theorem subtree_onlyChild (h : Edit.OnlyChild s p i) (j : Fin b.maxHandles) :
    Subtree s.up p j ↔ j = p ∨ Subtree s.up i j := by
  rw [subtree_iff_head]
  constructor
  · rintro (hj | ⟨c, hc, hsub⟩)
    · exact .inl hj
    · rw [h.2.2 c hc] at hsub
      exact .inr hsub
  · rintro (hj | hsub)
    · exact .inl hj
    · exact .inr ⟨i, h.1, hsub⟩

/-- The guard of the walk: retired, and one bit set. -/
theorem onlyChild_guard (h : s.WellLinked) (hup : s.up i = some p) :
    ((s.contexts p).state == .retired
      && ((s.contexts p).children.iter b).length == 1) = true
      ↔ Edit.OnlyChild s p i := by
  have hmem : ∀ c, c ∈ (s.contexts p).children.iter b ↔ s.up c = some p :=
    fun c => (Children.mem_iter ..).trans (h.child_iff p c)
  have hnodup := (s.contexts p).children.nodup_iter (b := b)
  have hi := (hmem i).mpr hup
  simp only [Bool.and_eq_true, beq_iff_eq]
  constructor
  · rintro ⟨hr, hlen⟩
    obtain ⟨a, ha⟩ := List.length_eq_one_iff.mp hlen
    refine ⟨hup, hr, ?_⟩
    intro c hc
    have hc' := (hmem c).mpr hc
    rw [ha, List.mem_singleton] at hc' hi
    rw [hc', hi]
  · rintro ⟨-, hr, hall⟩
    have hrep := List.eq_replicate_of_mem fun c hc => hall c ((hmem c).mp hc)
    have hle : ((s.contexts p).children.iter b).length ≤ 1 :=
      List.nodup_replicate.mp (hrep ▸ hnodup)
    have hpos := List.length_pos_of_mem hi
    exact ⟨hr, by omega⟩

/-- **UP**: the walk adds what is under the summit and not under the
    context it started from. -/
theorem retiredParents_spec (h : s.WellLinked) {fuel : Nat}
    {l : List (Fin b.maxHandles)} (hpath : Path s.up i l)
    (hfuel : l.length ≤ fuel) (acc : Children) :
    ∃ marked top, retiredParents s fuel (s.contexts i).parentIdx.toNat acc
        = .ok marked ∧ Summit s i top ∧
      ∀ j : Fin b.maxHandles, marked.hasChild b j = true ↔
        acc.hasChild b j = true
          ∨ (Subtree s.up top j ∧ ¬ Subtree s.up i j) := by
  induction hpath generalizing fuel acc with
  | @root i hroot =>
      obtain ⟨fuel, rfl⟩ : ∃ n, fuel = n + 1 := ⟨fuel - 1, by simp at hfuel; omega⟩
      refine ⟨acc, i, ?_, .stop ?_, ?_⟩
      · unfold retiredParents
        rw [h.root i hroot]
        exact if_pos rfl
      · intro p hp
        have hup := hp.1
        rw [hroot] at hup
        cases hup
      · intro j
        simp
  | @step i p l hup hpath ih =>
      obtain ⟨fuel, rfl⟩ : ∃ n, fuel = n + 1 := ⟨fuel - 1, by simp at hfuel; omega⟩
      have hlen : l.length ≤ fuel := by
        rw [List.length_cons] at hfuel
        omega
      have hidx : (s.contexts i).parentIdx.toNat = p.val := parentIdx_of_up hup
      have h64 : p.val < 64 := Nat.lt_of_lt_of_le p.isLt b.maxHandles_le
      have hnotroot : ¬ (p.val == Context.ROOT_INDEX.toNat) = true := by
        have h255 : Context.ROOT_INDEX.toNat = 255 := rfl
        simp only [beq_iff_eq]
        omega
      by_cases honly : Edit.OnlyChild s p i
      · have hadd := acc.addChild_ok p
        obtain ⟨marked, top, hrun, hsummit, hmem⟩ :=
          ih hlen ⟨acc.bits ||| 1#64 <<< p.val⟩
        refine ⟨marked, top, ?_, .climb honly hsummit, ?_⟩
        · unfold retiredParents
          rw [hidx, if_neg hnotroot, get?_fin]
          dsimp only
          rw [if_pos ((onlyChild_guard h hup).mpr honly), hadd]
          exact hrun
        · intro j
          have hip : ¬ Subtree s.up i p := by
            intro hsub
            have hb : Below s.up p p :=
              Relation.TransGen.head' hup hsub
            obtain ⟨k, hk⟩ : Rooted s.up p := ⟨l, hpath⟩
            exact Rooted.not_below_self ⟨k, hk⟩ hb
          have htop : Subtree s.up top p := hsummit.above
          rw [hmem, Children.hasChild_addChild hadd, subtree_onlyChild honly]
          constructor
          · rintro ((hacc | rfl) | ⟨hj, hnot⟩)
            · exact .inl hacc
            · exact .inr ⟨htop, hip⟩
            · exact .inr ⟨hj, fun hsub => hnot (.inr hsub)⟩
          · rintro (hacc | ⟨hj, hnot⟩)
            · exact .inl (.inl hacc)
            · by_cases hjp : j = p
              · exact .inl (.inr hjp)
              · refine .inr ⟨hj, ?_⟩
                rintro (he | hsub)
                · exact hjp he
                · exact hnot hsub
      · refine ⟨acc, i, ?_, .stop ?_, ?_⟩
        · unfold retiredParents
          rw [hidx, if_neg hnotroot, get?_fin]
          dsimp only
          rw [if_neg fun hg => honly ((onlyChild_guard h hup).mp hg)]
        · intro q hq
          have hqp : q = p := Option.some.inj (hq.1.symm.trans hup)
          rw [hqp] at hq
          exact honly hq
        · intro j
          simp

/-! ## The cut -/

/-- **WHAT IS DESTROYED** is the subtree of the summit. -/
theorem toDestroy_spec (h : s.WellLinked) (hlive : s.Live i) :
    ∃ marked top, toDestroy s i = .ok marked ∧ Summit s i top ∧
      Edit.Cut s marked top := by
  obtain ⟨l, hpath⟩ := h.rooted i hlive
  have hlen := hpath.length_le
  rw [Fintype.card_fin] at hlen
  have hroom : l.length ≤ b.maxHandles + 1 := by omega
  have hlevels : b.maxHandles + 1 ≤ b.maxHandles + 1 + l.length := by omega
  obtain ⟨retired, top, hup, hsummit, hretired⟩ :=
    retiredParents_spec h hpath hroom .empty
  obtain ⟨below, hdown, hbelow⟩ := getDescendants_spec h hpath hlive hlevels
  have hadd := below.addChild_ok i
  refine ⟨Children.addChildren ⟨below.bits ||| 1#64 <<< i.val⟩ retired, top, ?_,
    hsummit, h.live_above hlive hsummit.above, ?_, hsummit.ends⟩
  · unfold toDestroy
    dsimp only
    rw [hup, hdown]
    simp only [bind, Except.bind, hadd]
  · intro j
    have hself : Subtree s.up i j ↔ j = i ∨ Below s.up i j :=
      Relation.reflTransGen_iff_eq_or_transGen
    rw [Children.hasChild_addChildren, Children.hasChild_addChild hadd, hbelow,
      hretired, Children.hasChild_empty]
    constructor
    · rintro ((hb | rfl) | hf | ⟨hj, -⟩)
      · exact hsummit.above.trans (hself.mpr (.inr hb))
      · exact hsummit.above
      · cases hf
      · exact hj
    · intro hj
      by_cases hi : Subtree s.up i j
      · rcases hself.mp hi with he | hb
        · exact .inl (.inr he)
        · exact .inl (.inl hb)
      · exact .inr (.inr ⟨hj, hi⟩)

/-- **DESTRUCTION NEVER FAILS** once the handle resolves, and it prunes
    the subtree of the summit. -/
theorem destroyContext_spec (h : s.WellLinked) {handle : ContextHandle}
    {locality : UInt32} (hpos : s.getActiveContextPos handle locality = .ok i) :
    ∃ marked top, destroyContext s handle locality
        = .ok ((Edit.prune marked).apply s) ∧ Summit s i top ∧
      Edit.Cut s marked top := by
  obtain ⟨hactive, -, hloc⟩ := getActiveContextPos_ok hpos
  have hlive : s.Live i := by
    intro hi
    rw [hactive] at hi
    cases hi
  obtain ⟨marked, top, hrun, hsummit, hcut⟩ := toDestroy_spec h hlive
  refine ⟨marked, top, ?_, hsummit, hcut⟩
  unfold destroyContext
  rw [hpos]
  dsimp only
  rw [if_neg (by simp [hloc]), hrun]
  rfl

end State

end Dpe
